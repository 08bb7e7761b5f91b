import CyreneExchange.Integrations.Graph.Identity

/-! The Office policy of a host: what the configuration may say, the scope that a
profile is first linked with, and the check of a stored scope against the policy. -/
namespace CyreneExchange.Integrations.Graph
open CyreneExchange.General CyreneExchange.Gateway

section Names

/-- `_OFFICE_V2_FEATURES`. -/
inductive OfficeFeature where
  | plannerEnabled
  | todoEnabled
  | calendarEnabled
  | mailMetadataEnabled
  | mailDraftsEnabled
  | mailSendEnabled
  | sharePointDriveMetadataEnabled
deriving DecidableEq, Repr

def OfficeFeature.name : OfficeFeature → String
  | .plannerEnabled => "plannerEnabled"
  | .todoEnabled => "todoEnabled"
  | .calendarEnabled => "calendarEnabled"
  | .mailMetadataEnabled => "mailMetadataEnabled"
  | .mailDraftsEnabled => "mailDraftsEnabled"
  | .mailSendEnabled => "mailSendEnabled"
  | .sharePointDriveMetadataEnabled => "sharePointDriveMetadataEnabled"

def officeV2Features : List OfficeFeature :=
  [.plannerEnabled, .todoEnabled, .calendarEnabled, .mailMetadataEnabled, .mailDraftsEnabled,
    .mailSendEnabled, .sharePointDriveMetadataEnabled]

/-- `_OFFICE_V2_TARGETS`. -/
inductive OfficeTarget where
  | plannerPlanIds
  | sharePointSiteIds
  | sharePointListIds
  | sharePointDriveIds
  | toDoTaskListIds
  | calendarIds
  | mailFolderIds
  | freebusySubjects
deriving DecidableEq, Repr

def OfficeTarget.name : OfficeTarget → String
  | .plannerPlanIds => "plannerPlanIds"
  | .sharePointSiteIds => "sharePointSiteIds"
  | .sharePointListIds => "sharePointListIds"
  | .sharePointDriveIds => "sharePointDriveIds"
  | .toDoTaskListIds => "toDoTaskListIds"
  | .calendarIds => "calendarIds"
  | .mailFolderIds => "mailFolderIds"
  | .freebusySubjects => "freebusySubjects"

def officeV2Targets : List OfficeTarget :=
  [.plannerPlanIds, .sharePointSiteIds, .sharePointListIds, .sharePointDriveIds, .toDoTaskListIds,
    .calendarIds, .mailFolderIds, .freebusySubjects]

end Names

section Parser

/-- `MicrosoftGraphOfficeV2Profile`. -/
structure OfficeV2Profile where
  tenantId : Str
  workspaceId : Str
  enabledFeatures : OfficeFeature → Bool
  targets : OfficeTarget → List Str

/-- `_text`. -/
def boundedText (value : Value) : Option Str :=
  (value.asStr.filter fun s => !Str.isBlank s && decide (s.length ≤ 1024)).map Str.strip

/-- `str(UUID(s)).lower()`. -/
def hostUuid (s : Str) : Option Str := (uuidText s).map Str.lower

/-- `[0-9a-fA-F-]{36}`. -/
def isTenantText (s : Str) : Bool :=
  decide (s.length = 36) && s.all fun c => isHexDigit c || c.val == 45

/-- A trimmed text of so many characters, without asterisks and controls. -/
def isTarget (maximum : Nat) (s : Str) : Bool :=
  !s.isEmpty && decide (s.strip = s) && decide (s.length ≤ maximum) &&
    s.all fun c => c.val != 42 && decide (0x20 ≤ c.val) && c.val != 0x7f

/-- One target of the policy. Free/busy subjects are addresses, compared without case. -/
def parseTarget (name : OfficeTarget) (item : Value) : Validated Str := do
  let target ← narrow (item.asStr.filter (isTarget 256))
    ("Microsoft Graph officeV2 " ++ name.name ++ " contains an invalid target")
  if name = .freebusySubjects then
    ensure (isAddress target)
      "Microsoft Graph officeV2 freebusySubjects must be exact email/UPN values"
    pure (casefold target)
  else pure target

/-- The targets of one name. -/
def parseTargets (name : OfficeTarget) (rawValues : Value) : Validated (List Str) := do
  let items ← narrow ((listItems rawValues).filter fun items => items.length ≤ 100)
    ("Microsoft Graph officeV2 " ++ name.name ++ " must be a bounded array")
  let parsed ← each (fun _ item => parseTarget name item) 0 items
  ensure (decide parsed.Nodup) ("Microsoft Graph officeV2 " ++ name.name ++ " contains duplicates")
  pure parsed

/-- The target that a key names. -/
def targetOfKey (key : Str) : Option OfficeTarget :=
  officeV2Targets.find? fun name => text name.name == key

/-- The targets of the policy, in the order in which they are written. -/
def parseTargetEntries (entries : Dict) : Validated (List (Str × List Str)) :=
  each (fun _ entry => do
    let name ← narrow (targetOfKey entry.1) "Microsoft Graph officeV2 targets have an unsupported shape"
    let targets ← parseTargets name entry.2
    pure (entry.1, targets)) 0 entries

/-- The checks between the features and the targets. -/
def checkOfficeTargets (features : OfficeFeature → Bool) (targets : OfficeTarget → List Str) :
    Validated Unit := do
  ensure ((targets .plannerPlanIds).all isPlannerId)
    "Microsoft Graph officeV2 Planner target is invalid"
  ensure ((targets .sharePointSiteIds).all isValidSharepointSiteId)
    "Microsoft Graph officeV2 SharePoint site ID is invalid"
  ensure ((targets .sharePointListIds).all isLowerGuid)
    "Microsoft Graph officeV2 SharePoint list target is invalid"
  ensure (!features .sharePointDriveMetadataEnabled || (targets .sharePointSiteIds).length = 1)
    "Microsoft Graph v2 supports one fixed SharePoint site per profile"
  ensure (features .sharePointDriveMetadataEnabled || ((targets .sharePointSiteIds).isEmpty &&
      (targets .sharePointListIds).isEmpty && (targets .sharePointDriveIds).isEmpty))
    "Microsoft Graph SharePoint targets require its feature flag"
  ensure (features .todoEnabled || (targets .toDoTaskListIds).isEmpty)
    "To Do targets require its feature flag"
  ensure (features .plannerEnabled || (targets .plannerPlanIds).isEmpty)
    "Planner targets require its feature flag"
  ensure (features .calendarEnabled ||
      ((targets .calendarIds).isEmpty && (targets .freebusySubjects).isEmpty))
    "Calendar targets require its feature flag"
  ensure ((targets .mailFolderIds).isEmpty || features .mailMetadataEnabled)
    "Microsoft Graph mail folder targets require metadata access"

/-- The tenant of the expected issuer, if it is a Microsoft one. -/
def issuerTenantId (expectedIssuer : Str) : Validated (Option Str) :=
  match issuerTenant isTenantText expectedIssuer with
  | some issuerText =>
      (narrow (hostUuid issuerText) "Microsoft Graph officeV2 expectedIssuer is invalid").map some
  | none => pure none

/-- `_parse_microsoft_graph_office_v2`. -/
def parseMicrosoftGraphOfficeV2 (value : Value) (expectedIssuer expectedWorkspaceId : Str) :
    Validated OfficeV2Profile := do
  let office ← exactFields value
    ["schemaVersion", "tenantId", "workspaceId", "enabledFeatures", "targets"]
    "Microsoft Graph officeV2 has missing or unknown fields"
  ensure (match office.get "schemaVersion" with
      | .int version => decide (version = 2)
      | _ => false)
    "Microsoft Graph officeV2 version is invalid"
  let tenantId ← narrow ((boundedText (office.get "tenantId")).bind hostUuid)
    "Microsoft Graph officeV2 tenant/workspace must be UUIDs"
  let workspaceId ← narrow ((boundedText (office.get "workspaceId")).bind hostUuid)
    "Microsoft Graph officeV2 tenant/workspace must be UUIDs"
  let expectedWorkspace ← narrow (hostUuid expectedWorkspaceId)
    "Microsoft Graph officeV2 tenant/workspace must be UUIDs"
  let issuerTenantId ← issuerTenantId expectedIssuer
  ensure (issuerTenantId = some tenantId && workspaceId = expectedWorkspace)
    "Microsoft Graph officeV2 tenant/workspace differs from its owner binding"
  let featuresValue ← exactFields (office.get "enabledFeatures")
    (officeV2Features.map OfficeFeature.name)
    "Microsoft Graph officeV2 features have an unsupported shape"
  ensure (featuresValue.all fun entry => entry.2.asBool.isSome)
    "Microsoft Graph officeV2 feature flags must be booleans"
  let features (name : OfficeFeature) : Bool := (featuresValue.get name.name).asBool.getD false
  let targetsValue ← exactFields (office.get "targets") (officeV2Targets.map OfficeTarget.name)
    "Microsoft Graph officeV2 targets have an unsupported shape"
  let parsed ← parseTargetEntries targetsValue
  let targets (name : OfficeTarget) : List Str := (parsed.lookup (text name.name)).getD []
  checkOfficeTargets features targets
  pure { tenantId, workspaceId, enabledFeatures := features, targets }

end Parser

section Scopes

/-- What the Graph scopes read of an `AuthorizationProviderProfile`. -/
structure AuthorizationProviderProfile where
  provider : Str
  accessMode : Str
  expectedIssuer : Str
  organizationId : Str
  workspaceId : Str
  microsoftGraphOfficeV2 : Option OfficeV2Profile

/-- The exceptions that a scope is refused with. -/
inductive ScopeRefusal where
  | permissionError (message : String)
  | valueError (message : String)
  | indexError
deriving DecidableEq, Repr

/-- `if not condition: raise PermissionError(message)`. -/
def permit (condition : Bool) (message : String) : Except ScopeRefusal Unit :=
  if condition then .ok () else .error (.permissionError message)

/-- A check whose ValueError is passed on. -/
def checked {α : Type} (x : Validated α) : Except ScopeRefusal α := x.mapError .valueError

/-- The actor and the binding that both functions below compare. -/
def requireBinding (profile : AuthorizationProviderProfile) (office : OfficeV2Profile)
    (principal : MicrosoftPrincipal) : Except ScopeRefusal Unit := do
  let (tenantId, _, _) ← checked (microsoftIdentityForPrincipal principal)
  permit (tenantId = office.tenantId && principal.workspaceId = office.workspaceId &&
      profile.expectedIssuer = principal.issuer &&
      profile.organizationId = principal.organizationId &&
      profile.workspaceId = principal.workspaceId)
    "Microsoft Graph Office v2 binding is outside the verified actor"

/-- The scope that the policy asks for. -/
def OfficeV2Profile.initialScope (office : OfficeV2Profile) : ProfileScopeV2 :=
  let features := office.enabledFeatures
  let targets := office.targets
  let sharepointEnabled := features .sharePointDriveMetadataEnabled
  { tenantId := office.tenantId
    workspaceId := office.workspaceId
    planner :=
      { planIds := targets .plannerPlanIds
        tasksRead := features .plannerEnabled
        tasksWrite := features .plannerEnabled }
    sharepoint :=
      { enabled := sharepointEnabled
        siteId := if sharepointEnabled then (targets .sharePointSiteIds).head? else none
        listIds := if sharepointEnabled then targets .sharePointListIds else []
        driveIds := if sharepointEnabled then targets .sharePointDriveIds else []
        metadataRead := sharepointEnabled }
    todo :=
      { enabled := features .todoEnabled
        taskListIds := targets .toDoTaskListIds
        tasksRead := features .todoEnabled
        tasksWrite := features .todoEnabled }
    calendar :=
      { enabled := features .calendarEnabled
        calendarIds := targets .calendarIds
        eventsRead := features .calendarEnabled
        eventsWrite := features .calendarEnabled
        freebusyRead := !(targets .freebusySubjects).isEmpty
        freebusySubjects := targets .freebusySubjects }
    mail :=
      { enabled := features .mailMetadataEnabled || features .mailDraftsEnabled ||
          features .mailSendEnabled
        folderIds := targets .mailFolderIds
        metadataRead := features .mailMetadataEnabled
        draftsWrite := features .mailDraftsEnabled
        sendEnabled := features .mailSendEnabled } }

/-- `microsoft_graph_office_v2_scope`. -/
def microsoftGraphOfficeV2Scope (profile : AuthorizationProviderProfile)
    (principal : MicrosoftPrincipal) : Except ScopeRefusal ProfileScope :=
  match profile.microsoftGraphOfficeV2 with
  | none => .error (.permissionError "Microsoft Graph Office v2 host profile is unavailable")
  | some office => do
      permit (profile.provider = text "microsoft_graph" && profile.accessMode = text "actor_owned")
        "Microsoft Graph Office v2 host profile is unavailable"
      requireBinding profile office principal
      -- `site_ids[0]` of an enabled site
      if office.enabledFeatures .sharePointDriveMetadataEnabled &&
          (office.targets .sharePointSiteIds).isEmpty then .error .indexError
      else checked (validateProfileScope office.initialScope.toValue)

/-- `_require_host_subset`. -/
def requireHostSubset (selected hostAllowlist : List Str) (label : String) :
    Except ScopeRefusal Unit :=
  permit (hostAllowlist.isEmpty || selected.all hostAllowlist.contains)
    ("Microsoft Graph " ++ label ++ " target is outside host policy")

/-- A check that only an enabled part makes. -/
def whenEnabled (flag : Bool) (check : Except ScopeRefusal Unit) : Except ScopeRefusal Unit :=
  if flag then check else .ok ()

/-- The site and the targets of an enabled SharePoint part. -/
def checkSharepointPolicy (office : OfficeV2Profile) (sharepoint : SharepointScope) :
    Except ScopeRefusal Unit :=
  match (office.targets .sharePointSiteIds).head? with
  | none => .error .indexError
  | some siteId => do
      permit (sharepoint.siteId = some siteId)
        "Microsoft Graph SharePoint site is outside host policy"
      requireHostSubset sharepoint.listIds (office.targets .sharePointListIds) "SharePoint list"
      requireHostSubset sharepoint.driveIds (office.targets .sharePointDriveIds) "SharePoint drive"

/-- The checks of a stored scope against the features and the targets of the policy. -/
def checkHostPolicy (office : OfficeV2Profile) (scope : ProfileScopeV2) :
    Except ScopeRefusal Unit := do
  let features := office.enabledFeatures
  let targets := office.targets
  permit (!scope.todo.enabled || features .todoEnabled)
    "Microsoft Graph To Do is disabled by host policy"
  permit (!scope.planner.tasksRead || features .plannerEnabled)
    "Microsoft Graph Planner is disabled by host policy"
  permit (!scope.sharepoint.enabled || features .sharePointDriveMetadataEnabled)
    "Microsoft Graph SharePoint drive metadata is disabled by host policy"
  permit (!scope.calendar.enabled || features .calendarEnabled)
    "Microsoft Graph Calendar is disabled by host policy"
  permit (!scope.mail.metadataRead || features .mailMetadataEnabled)
    "Microsoft Graph Mail feature is disabled by host policy"
  permit (!scope.mail.draftsWrite || features .mailDraftsEnabled)
    "Microsoft Graph Mail feature is disabled by host policy"
  permit (!scope.mail.sendEnabled || features .mailSendEnabled)
    "Microsoft Graph Mail feature is disabled by host policy"
  requireHostSubset scope.mail.folderIds (targets .mailFolderIds) "Mail folder"
  whenEnabled scope.sharepoint.enabled (checkSharepointPolicy office scope.sharepoint)
  whenEnabled scope.todo.enabled
    (requireHostSubset scope.todo.taskListIds (targets .toDoTaskListIds) "To Do list")
  whenEnabled scope.calendar.enabled do
    requireHostSubset scope.calendar.calendarIds (targets .calendarIds) "Calendar"
    requireHostSubset scope.calendar.freebusySubjects (targets .freebusySubjects)
      "free/busy subject"
  whenEnabled (!scope.planner.planIds.isEmpty)
    (requireHostSubset scope.planner.planIds (targets .plannerPlanIds) "Planner plan")

/-- `validate_microsoft_graph_office_v2_scope`. -/
def validateMicrosoftGraphOfficeV2Scope (profile : AuthorizationProviderProfile)
    (scopeValue : Value) (principal : MicrosoftPrincipal) : Except ScopeRefusal ProfileScopeV2 :=
  match profile.microsoftGraphOfficeV2 with
  | none => .error (.permissionError "Microsoft Graph Office v2 host scope is unavailable")
  | some office => do
      permit (profile.provider = text "microsoft_graph")
        "Microsoft Graph Office v2 host scope is unavailable"
      requireBinding profile office principal
      match ← checked (validateProfileScope scopeValue) with
      | .v1 _ => .error (.permissionError
          "Microsoft Graph profile Workspace scope differs from host policy")
      | .v2 scope =>
          permit (scope.tenantId = office.tenantId && scope.workspaceId = office.workspaceId)
            "Microsoft Graph profile Workspace scope differs from host policy"
          checkHostPolicy office scope
          pure scope

end Scopes

section Checks

variable {α β : Type} {message label : String} {u : Unit}

theorem permit_eq_ok {condition : Bool} : permit condition message = .ok u ↔ condition = true := by
  cases condition <;> simp [permit]

theorem checked_eq_ok {x : Validated α} {a : α} : checked x = .ok a ↔ x = .ok a := by
  cases x <;> simp [checked, Except.mapError]

/-- A non-empty allowlist holds everything that is selected. -/
def HostSubset (selected hostAllowlist : List Str) : Prop :=
  hostAllowlist = [] ∨ ∀ id ∈ selected, id ∈ hostAllowlist

theorem requireHostSubset_eq_ok {selected hostAllowlist : List Str} :
    requireHostSubset selected hostAllowlist label = .ok u ↔ HostSubset selected hostAllowlist := by
  simp only [requireHostSubset, permit_eq_ok, Bool.or_eq_true, List.isEmpty_iff, List.all_eq_true,
    List.contains_iff_mem, HostSubset]

theorem hostSubset_nil (hostAllowlist : List Str) : HostSubset [] hostAllowlist :=
  .inr (List.forall_mem_nil _)

theorem hostSubset_self (selected : List Str) : HostSubset selected selected :=
  .inr fun _ hMem => hMem

/-- A scope that keeps to the policy. -/
structure WithinPolicy (office : OfficeV2Profile) (scope : ProfileScopeV2) : Prop where
  todo : scope.todo.enabled = true → office.enabledFeatures .todoEnabled = true
  planner : scope.planner.tasksRead = true → office.enabledFeatures .plannerEnabled = true
  sharepoint : scope.sharepoint.enabled = true →
    office.enabledFeatures .sharePointDriveMetadataEnabled = true
  calendar : scope.calendar.enabled = true → office.enabledFeatures .calendarEnabled = true
  metadata : scope.mail.metadataRead = true → office.enabledFeatures .mailMetadataEnabled = true
  drafts : scope.mail.draftsWrite = true → office.enabledFeatures .mailDraftsEnabled = true
  send : scope.mail.sendEnabled = true → office.enabledFeatures .mailSendEnabled = true
  folders : HostSubset scope.mail.folderIds (office.targets .mailFolderIds)
  site : scope.sharepoint.enabled = true →
    ∃ siteId, (office.targets .sharePointSiteIds).head? = some siteId ∧
      scope.sharepoint.siteId = some siteId
  lists : scope.sharepoint.enabled = true →
    HostSubset scope.sharepoint.listIds (office.targets .sharePointListIds)
  drives : scope.sharepoint.enabled = true →
    HostSubset scope.sharepoint.driveIds (office.targets .sharePointDriveIds)
  taskLists : scope.todo.enabled = true →
    HostSubset scope.todo.taskListIds (office.targets .toDoTaskListIds)
  calendars : scope.calendar.enabled = true →
    HostSubset scope.calendar.calendarIds (office.targets .calendarIds)
  subjects : scope.calendar.enabled = true →
    HostSubset scope.calendar.freebusySubjects (office.targets .freebusySubjects)
  plans : HostSubset scope.planner.planIds (office.targets .plannerPlanIds)

theorem permit_implies {flag feature : Bool} :
    permit (!flag || feature) message = .ok u ↔ (flag = true → feature = true) := by
  cases flag <;> simp [permit_eq_ok]

theorem whenEnabled_eq_ok {flag : Bool} {check : Except ScopeRefusal Unit} :
    whenEnabled flag check = .ok u ↔ (flag = true → check = .ok u) := by
  cases flag <;> simp [whenEnabled]

theorem checkSharepointPolicy_eq_ok {office : OfficeV2Profile} {sharepoint : SharepointScope} :
    checkSharepointPolicy office sharepoint = .ok u ↔
      (∃ siteId, (office.targets .sharePointSiteIds).head? = some siteId ∧
        sharepoint.siteId = some siteId) ∧
      HostSubset sharepoint.listIds (office.targets .sharePointListIds) ∧
      HostSubset sharepoint.driveIds (office.targets .sharePointDriveIds) := by
  unfold checkSharepointPolicy
  cases (office.targets .sharePointSiteIds).head? with
  | none => simp
  | some siteId =>
      simp only [except_bind_eq_ok, permit_eq_ok, requireHostSubset_eq_ok, decide_eq_true_eq,
        exists_const, Option.some.injEq, exists_eq_left']

theorem checkHostPolicy_eq_ok {office : OfficeV2Profile} {scope : ProfileScopeV2} :
    checkHostPolicy office scope = .ok u ↔ WithinPolicy office scope := by
  have hPlans : ((!scope.planner.planIds.isEmpty) = true →
      HostSubset scope.planner.planIds (office.targets .plannerPlanIds)) ↔
        HostSubset scope.planner.planIds (office.targets .plannerPlanIds) := by
    cases scope.planner.planIds with
    | nil => simp [hostSubset_nil]
    | cons id rest => simp
  simp only [checkHostPolicy, except_bind_eq_ok, permit_implies, requireHostSubset_eq_ok,
    whenEnabled_eq_ok, checkSharepointPolicy_eq_ok, exists_const, hPlans]
  constructor
  · rintro ⟨hTodo, hPlanner, hSharepoint, hCalendar, hMetadata, hDrafts, hSend, hFolders, hSite,
      hTaskLists, hCalendars, hPlans⟩
    exact ⟨hTodo, hPlanner, hSharepoint, hCalendar, hMetadata, hDrafts, hSend, hFolders,
      fun h => (hSite h).1, fun h => (hSite h).2.1, fun h => (hSite h).2.2, hTaskLists,
      fun h => (hCalendars h).1, fun h => (hCalendars h).2, hPlans⟩
  · rintro ⟨hTodo, hPlanner, hSharepoint, hCalendar, hMetadata, hDrafts, hSend, hFolders, hSite,
      hLists, hDrives, hTaskLists, hCalendars, hSubjects, hPlans⟩
    exact ⟨hTodo, hPlanner, hSharepoint, hCalendar, hMetadata, hDrafts, hSend, hFolders,
      fun h => ⟨hSite h, hLists h, hDrives h⟩, hTaskLists, fun h => ⟨hCalendars h, hSubjects h⟩,
      hPlans⟩

/-- The verified principal is the actor that the host bound the profile to. -/
structure Bound (profile : AuthorizationProviderProfile) (office : OfficeV2Profile)
    (principal : MicrosoftPrincipal) : Prop where
  issuer : principal.issuer = tenantIssuer office.tenantId
  tenant : IsCanonicalGuid office.tenantId
  subject : IsCanonicalGuid principal.subject
  workspace : principal.workspaceId = office.workspaceId
  expectedIssuer : profile.expectedIssuer = principal.issuer
  organization : profile.organizationId = principal.organizationId
  bindingWorkspace : profile.workspaceId = principal.workspaceId

variable {profile : AuthorizationProviderProfile} {office : OfficeV2Profile}
  {principal : MicrosoftPrincipal}

theorem requireBinding_eq_ok :
    requireBinding profile office principal = .ok u ↔ Bound profile office principal := by
  simp only [requireBinding, except_bind_eq_ok, checked_eq_ok, microsoftIdentityForPrincipal_eq_ok,
    permit_eq_ok, Bool.and_eq_true, decide_eq_true_eq]
  constructor
  · rintro ⟨_, ⟨tenantId, hIssuer, hTenant, hSubject, rfl⟩, hBinding⟩
    obtain ⟨⟨⟨⟨rfl, hWorkspace⟩, hExpected⟩, hOrganization⟩, hBound⟩ := hBinding
    exact ⟨hIssuer, hTenant, hSubject, hWorkspace, hExpected, hOrganization, hBound⟩
  · rintro ⟨hIssuer, hTenant, hSubject, hWorkspace, hExpected, hOrganization, hBound⟩
    exact ⟨_, ⟨office.tenantId, hIssuer, hTenant, hSubject, rfl⟩,
      ⟨⟨⟨rfl, hWorkspace⟩, hExpected⟩, hOrganization⟩, hBound⟩

/-- A stored scope that the policy accepts for a principal. -/
structure ScopeAccepted (profile : AuthorizationProviderProfile) (office : OfficeV2Profile)
    (principal : MicrosoftPrincipal) (value : Value) (scope : ProfileScopeV2) : Prop where
  provider : profile.provider = text "microsoft_graph"
  bound : Bound profile office principal
  valid : validateProfileScope value = .ok (.v2 scope)
  tenant : scope.tenantId = office.tenantId
  workspace : scope.workspaceId = office.workspaceId
  within : WithinPolicy office scope

theorem validateMicrosoftGraphOfficeV2Scope_eq_ok {value : Value} {scope : ProfileScopeV2}
    (hOffice : profile.microsoftGraphOfficeV2 = some office) :
    validateMicrosoftGraphOfficeV2Scope profile value principal = .ok scope ↔
      ScopeAccepted profile office principal value scope := by
  unfold validateMicrosoftGraphOfficeV2Scope
  simp only [hOffice, except_bind_eq_ok, permit_eq_ok, requireBinding_eq_ok, checked_eq_ok,
    decide_eq_true_eq, exists_const]
  constructor
  · rintro ⟨hProvider, hBound, found, hValid, h⟩
    cases found with
    | v1 found => cases h
    | v2 found =>
        obtain ⟨_, hTenant, h⟩ := except_bind_eq_ok.mp h
        obtain ⟨_, hWithin, h⟩ := except_bind_eq_ok.mp h
        cases h
        rw [permit_eq_ok, Bool.and_eq_true, decide_eq_true_eq, decide_eq_true_eq] at hTenant
        exact ⟨hProvider, hBound, hValid, hTenant.1, hTenant.2, checkHostPolicy_eq_ok.mp hWithin⟩
  · rintro ⟨hProvider, hBound, hValid, hTenant, hWorkspace, hWithin⟩
    refine ⟨hProvider, hBound, .v2 scope, hValid, ?_⟩
    refine except_bind_eq_ok.mpr ⟨(), permit_eq_ok.mpr (by simp [hTenant, hWorkspace]), ?_⟩
    exact except_bind_eq_ok.mpr ⟨(), checkHostPolicy_eq_ok.mpr hWithin, rfl⟩

end Checks

end CyreneExchange.Integrations.Graph
