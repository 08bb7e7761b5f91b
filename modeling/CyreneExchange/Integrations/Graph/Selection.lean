import CyreneExchange.Integrations.Graph.Discovery

/-! Target selection: a patch of the target lists is laid over the stored scope,
checked against discovery and the allowlists of the host, and sent as a swap against
the credential revision. -/
namespace CyreneExchange.Integrations.Graph
open CyreneExchange.General CyreneExchange.Gateway

section Patches

/-- `_TARGET_FIELDS`, sorted. The site is not among them. -/
def targetFields : List OfficeTarget :=
  [.calendarIds, .freebusySubjects, .mailFolderIds, .plannerPlanIds, .sharePointDriveIds,
    .sharePointListIds, .toDoTaskListIds]

/-- The target lists that a request names, with what it puts into them. -/
abbrev Patch := List (OfficeTarget × List Str)

/-- One list of a patch. -/
def selectedIds (raw : Value) : Except SetupFailure (List Str) := do
  let items ← expectSome ((listItems raw).filter fun items => decide (items.length ≤ 100))
    "office_graph_target_selection_invalid"
  let ids ← each (fun _ item => expectSome (item.asStr.filter (isTarget 512))
    "office_graph_target_selection_invalid") 0 items
  require (decide ids.Nodup) "office_graph_target_selection_duplicate"
  pure ids

/-- `_target_selection`. -/
def targetSelection (value : Value) : Except SetupFailure Patch := do
  let item ← expectSome
    (value.asDict.filter fun d =>
      d.all fun entry => (targetFields.map fun name => text name.name).contains entry.1)
    "office_target_selection_invalid"
  require (!item.isEmpty) "office_graph_target_selection_invalid"
  each (fun _ name => (selectedIds (item.get (text name.name))).map fun ids => (name, ids)) 0
    (targetFields.filter fun name => item.has (text name.name))

/-- The stored selection with the patch laid over it. -/
def mergeTargets (stored : ProfileScopeV2) (patch : Patch) (name : OfficeTarget) : List Str :=
  (patch.lookup name).getD (selectedTargetIds stored name)

/-- The scope with these targets in the place of its own. -/
def ProfileScopeV2.withTargets (scope : ProfileScopeV2) (selected : OfficeTarget → List Str) :
    ProfileScopeV2 :=
  { scope with
    planner := { scope.planner with planIds := selected .plannerPlanIds }
    sharepoint :=
      { scope.sharepoint with
        listIds := selected .sharePointListIds
        driveIds := selected .sharePointDriveIds }
    todo := { scope.todo with taskListIds := selected .toDoTaskListIds }
    calendar :=
      { scope.calendar with
        calendarIds := selected .calendarIds
        freebusySubjects := selected .freebusySubjects }
    mail := { scope.mail with folderIds := selected .mailFolderIds } }

end Patches

section Checks

/-- `discovery_map`, in its order. -/
def discoveryOrder : List ResourceType :=
  [.plannerPlans, .todoLists, .calendars, .mailFolders, .sharepointDrives, .freebusySubjects]

/-- What the patch selects of a resource type has been discovered, if it selects anything. -/
def checkDiscoveredIds (services : Services) (office : OfficeV2Profile) (profile : Dict)
    (patch : Patch) (resourceType : ResourceType) : Setup Unit :=
  let chosen := (patch.lookup resourceType.target).getD []
  if chosen.isEmpty then pure ()
  else do
    let discovered ← discoverAllIds services office profile resourceType
    .lift (require (chosen.all discovered.contains) "office_graph_target_not_discovered")

/-- The discovery of everything that the patch selects. -/
def checkDiscovered (services : Services) (office : OfficeV2Profile) (profile : Dict)
    (patch : Patch) : List ResourceType → Setup Unit
  | [] => pure ()
  | resourceType :: rest => do
      checkDiscoveredIds services office profile patch resourceType
      checkDiscovered services office profile patch rest

/-- SharePoint lists and free/busy subjects must be on an allowlist. -/
def isListed (selected allowed : List Str) : Bool :=
  selected.isEmpty || (!allowed.isEmpty && selected.all allowed.contains)

/-- For other targets an empty allowlist admits everything. -/
def isAdmitted (selected allowed : List Str) : Bool :=
  allowed.isEmpty || selected.all allowed.contains

/-- The checks of the merged selection against the allowlists of the host. -/
def withinAllowlists (office : OfficeV2Profile) (selected : OfficeTarget → List Str) : Bool :=
  ([.sharePointListIds, .freebusySubjects] : List OfficeTarget).all
      (fun name => isListed (selected name) (office.targets name)) &&
    ([.plannerPlanIds, .sharePointDriveIds, .toDoTaskListIds, .calendarIds] :
      List OfficeTarget).all fun name => isAdmitted (selected name) (office.targets name)

end Checks

section Updates

/-- The fields of a selection request. -/
structure SelectionRequest where
  expectedRevision : Int
  targets : Value

/-- `isinstance(value, int)`, and not a bool. -/
def asInt : Value → Option Int
  | .int n => some n
  | _ => none

def selectionRequest (payload : Dict) : Except SetupFailure SelectionRequest := do
  require (payload.keysAre [text "expectedCredentialRevision", text "targets"])
    "office_setup_request_fields_invalid"
  let expectedRevision ← expectSome
    ((asInt (payload.get "expectedCredentialRevision")).filter fun n => decide (0 ≤ n))
    "office_graph_revision_invalid"
  pure { expectedRevision, targets := payload.get "targets" }

/-- The stored scope must be of version 2. -/
def requireV2 : ProfileScope → Except SetupFailure ProfileScopeV2
  | .v1 _ => .error (officeError "office_graph_v2_scope_required")
  | .v2 scope => .ok scope

/-- The scope to send, validated once more. -/
def newScope (stored : ProfileScopeV2) (selected : OfficeTarget → List Str) :
    Except SetupFailure ProfileScope := do
  let scope ← passing (validateProfileScope (stored.withTargets selected).toValue)
  require (decide (scope.siteId = stored.sharepoint.siteId))
    "office_graph_site_scope_change_denied"
  pure scope

/-- `digest_arguments`. -/
def scopeDigest (services : Services) (scope : ProfileScope) : Except SetupFailure Str :=
  match services.digest scope.toValue with
  | some digest => .ok digest
  | none => .error (.unexpected "ExchangeProductError")

/-- The update for a selection, once discovery has let it through. -/
def buildUpdate (services : Services) (host : OfficeHost) (principal : MicrosoftPrincipal)
    (profileRef : Str) (expectedRevision : Int) (stored : ProfileScopeV2) (patch : Patch) :
    Except SetupFailure ScopeUpdate := do
  let selected := mergeTargets stored patch
  require (withinAllowlists host.office selected) "office_graph_target_outside_host_allowlist"
  let targetScope ← newScope stored selected
  let digest ← scopeDigest services targetScope
  pure
    { profileRef, targetScope
      workspaceId := principal.workspaceId
      expectedCredentialRevision := expectedRevision
      idempotencyKey := text "office-targets:" ++ profileRef ++ text ":" ++
        text (toString expectedRevision) ++ text ":" ++ digest }

/-- Free/busy reads need at least one subject. -/
def clearsSubjects (stored : ProfileScopeV2) (patch : Patch) : Bool :=
  stored.calendar.freebusyRead && decide (patch.lookup .freebusySubjects = some [])

/-- All that `_select_targets` does before it sends an update. -/
def prepareUpdate (services : Services) (host : OfficeHost) (principal : MicrosoftPrincipal)
    (profileRef : Str) (profile : Dict) (request : SelectionRequest) : Setup ScopeUpdate := do
  let patch ← .lift (targetSelection request.targets)
  let scope ← .lift (storedScope profile)
  let stored ← .lift (requireV2 scope)
  .lift (require (!clearsSubjects stored patch) "office_graph_target_selection_invalid")
  checkDiscovered services host.office profile patch discoveryOrder
  .lift (buildUpdate services host principal profileRef request.expectedRevision stored patch)

/-- `value == n`. -/
def equalsInt (value : Value) (n : Int) : Bool :=
  match value with
  | .int m => decide (m = n)
  | .bool b => decide ((if b then 1 else 0) = n)
  | .float x => x.between n n
  | _ => false

/-- `_same_target_scope`. -/
def sameTargetScope (left : Value) (right : ProfileScope) : Bool :=
  match validateProfileScope left, validateProfileScope right.toValue with
  | .ok leftScope, .ok rightScope => decide (leftScope = rightScope)
  | _, _ => false

/-- What nobody knows the end of. -/
def unknownUpdate : SetupFailure := .office "office_graph_target_update_unknown" "UNKNOWN"

/-- A row that shows the update. -/
def requireUpdated (update : ScopeUpdate) : Option Dict → Except SetupFailure Dict
  | none => .error unknownUpdate
  | some current =>
      if !equalsInt (current.get "credential_revision") (update.expectedCredentialRevision + 1) then
        .error unknownUpdate
      else if !sameTargetScope (current.get "target_scope") update.targetScope then
        .error (.office "office_graph_target_update_readback_mismatch" "UNKNOWN")
      else .ok current

/-- The update may have been committed before it failed: read back once. -/
def reconcileUpdate (update : ScopeUpdate) :
    Except SetupFailure (Option Dict) → Except SetupFailure Dict
  | .ok (some current) =>
      if sameTargetScope (current.get "target_scope") update.targetScope &&
          equalsInt (current.get "credential_revision") (update.expectedCredentialRevision + 1) then
        .ok current
      else .error unknownUpdate
  | _ => .error unknownUpdate

/-- What the row is after the update, whether it returned or not. -/
def readBack (services : Services) (host : OfficeHost) (principal : MicrosoftPrincipal)
    (update : ScopeUpdate) (returned : Bool) : Setup Dict :=
  if returned then do
    let current ← readProfile services host principal update.profileRef
    .lift (requireUpdated update current)
  else do
    let current ← (readProfile services host principal update.profileRef).outcome
    .lift (reconcileUpdate update current)

/-- Send the update once, and answer from what is read back. -/
def commitUpdate (services : Services) (host : OfficeHost) (principal : MicrosoftPrincipal)
    (update : ScopeUpdate) : Setup SetupSnapshot := do
  let returned ← .ask (.updateSent update) fun history => services.update history update
  let current ← readBack services host principal update returned
  profileSnapshot services host update.profileRef current "UPDATED"

/-- `_select_targets`. -/
def selectTargets (services : Services) (host : OfficeHost) (principal : MicrosoftPrincipal)
    (profileRef : Str) (profile payload : Dict) : Setup SetupSnapshot := do
  let request ← .lift (selectionRequest payload)
  let currentRevision ← .lift (expectSome (asInt (profile.get "credential_revision"))
    "office_graph_revision_unavailable")
  requireAuthorization services profile
  if currentRevision = request.expectedRevision then do
    let update ← prepareUpdate services host principal profileRef profile request
    commitUpdate services host principal update
  else profileSnapshot services host profileRef profile "CONFLICT"

end Updates

end CyreneExchange.Integrations.Graph
