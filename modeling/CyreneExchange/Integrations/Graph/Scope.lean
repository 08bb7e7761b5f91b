import CyreneExchange.Integrations.Graph.Text

/-! Microsoft Graph profile scopes: the values Account Center stores, and their
validation into typed scopes field by field. -/
namespace CyreneExchange.Integrations.Graph
open CyreneExchange.General CyreneExchange.Gateway

/-- A check that raises a ValueError with this text. -/
abbrev Validated := Except String

/-- `if not condition: raise ValueError(message)`. -/
def ensure (condition : Bool) (message : String) : Validated Unit :=
  if condition then .ok () else .error message

/-- The value that a test narrows to. -/
def narrow {α : Type} (value : Option α) (message : String) : Validated α :=
  match value with
  | some a => .ok a
  | none => .error message

/-- `isinstance(value, list)`. -/
def listItems : Value → Option (List Value)
  | .list items => some items
  | _ => none

/-- `value[name]` of a mapping. -/
def field (value : Value) (name : String) : Value := (value.asDict.getD []).get name

/-- The texts of a list. -/
def textsOf (value : Value) : List Str := ((listItems value).getD []).filterMap Value.asStr

/-- A mapping with exactly these keys. -/
def exactFields (value : Value) (fields : List String) (message : String) : Validated Dict :=
  narrow (value.asDict.filter fun d => d.keysAre (fields.map text)) message

section Identifiers

/-- `_planner_id`. -/
def plannerId (label : String) (value : Value) : Validated Str :=
  narrow (value.asStr.filter isPlannerId) (label ++ " is not a bounded Planner resource identifier")

/-- `_opaque_resource_id`. -/
def opaqueResourceId (label : String) (value : Value) : Validated Str :=
  narrow (value.asStr.filter isOpaqueResourceId)
    (label ++ " is outside the bounded Graph resource identifier schema")

/-- `validate_sharepoint_list_id`. -/
def validateSharepointListId (value : Value) : Validated Str := do
  let id ← narrow (value.asStr.filter isGuid) "SharePoint list IDs must be UUIDs"
  ensure (id = id.lower) "SharePoint list IDs must use lowercase canonical UUIDs"
  pure id

/-- `_canonical_uuid`. -/
def canonicalUuid (label : String) (value : Value) : Validated Str := do
  let id ← narrow (value.asStr.filter isGuid) (label ++ " must be a UUID")
  -- `str(UUID(value))` of a GUID is the same GUID in lower case
  ensure (id = id.lower) (label ++ " must use lower-case canonical UUID form")
  pure id

/-- What `_validate_subject` asks of a subject before it is folded. -/
def isSubject (s : Str) : Bool :=
  decide (3 ≤ s.length) && decide (s.length ≤ 320) && decide (s.strip = s) && isAddress s

/-- `_validate_subject`. -/
def validateSubject (value : Value) : Validated Str :=
  (narrow (value.asStr.filter isSubject)
    "free/busy subject is outside the fixed profile schema").map casefold

/-- `_unique_planner_ids`, `_unique_resource_ids`, `_unique_sharepoint_ids` and
`_validate_subjects`: at most a hundred, and no two alike. -/
def uniqueIds (validate : Value → Validated Str) (label : String) (value : Value) :
    Validated (List Str) := do
  let items ← narrow ((listItems value).filter fun items => items.length ≤ 100)
    ("Account Center returned invalid " ++ label)
  let identifiers ← each (fun _ item => validate item) 0 items
  ensure (decide identifiers.Nodup) ("Account Center returned duplicate " ++ label)
  pure identifiers

end Identifiers

section Scopes

structure PlannerScope where
  planIds : List Str
  tasksRead : Bool
  tasksWrite : Bool
deriving DecidableEq, Repr

/-- The SharePoint part of a version 1 scope. -/
structure SharepointV1Scope where
  enabled : Bool
  siteId : Option Str
  listIds : List Str
deriving DecidableEq, Repr

/-- The SharePoint part of a version 2 scope. Content is never read. -/
structure SharepointScope where
  enabled : Bool
  siteId : Option Str
  listIds : List Str
  driveIds : List Str
  metadataRead : Bool
deriving DecidableEq, Repr

structure TodoScope where
  enabled : Bool
  taskListIds : List Str
  tasksRead : Bool
  tasksWrite : Bool
deriving DecidableEq, Repr

/-- Attendees are never written. -/
structure CalendarScope where
  enabled : Bool
  calendarIds : List Str
  eventsRead : Bool
  eventsWrite : Bool
  freebusyRead : Bool
  freebusySubjects : List Str
deriving DecidableEq, Repr

/-- Message bodies are never read. -/
structure MailScope where
  enabled : Bool
  folderIds : List Str
  metadataRead : Bool
  draftsWrite : Bool
  sendEnabled : Bool
deriving DecidableEq, Repr

structure ProfileScopeV1 where
  tenantId : Str
  planner : PlannerScope
  sharepoint : SharepointV1Scope
deriving DecidableEq, Repr

structure ProfileScopeV2 where
  tenantId : Str
  workspaceId : Str
  planner : PlannerScope
  sharepoint : SharepointScope
  todo : TodoScope
  calendar : CalendarScope
  mail : MailScope
deriving DecidableEq, Repr

/-- What `validate_profile_scope` returns. -/
inductive ProfileScope where
  | v1 (scope : ProfileScopeV1)
  | v2 (scope : ProfileScopeV2)
deriving DecidableEq, Repr

end Scopes

section Values

/-- A list of texts. -/
def texts (ids : List Str) : Value := .list (ids.map .str)

/-- A text, or None. -/
def optionalStr : Option Str → Value
  | some s => .str s
  | none => .none

def PlannerScope.toValue (planner : PlannerScope) : Value :=
  .dict [("plan_ids", texts planner.planIds), ("tasks_read", .bool planner.tasksRead),
    ("tasks_write", .bool planner.tasksWrite)]

def SharepointV1Scope.toValue (sharepoint : SharepointV1Scope) : Value :=
  .dict [("enabled", .bool sharepoint.enabled), ("site_id", optionalStr sharepoint.siteId),
    ("list_ids", texts sharepoint.listIds)]

def SharepointScope.toValue (sharepoint : SharepointScope) : Value :=
  .dict [("enabled", .bool sharepoint.enabled), ("site_id", optionalStr sharepoint.siteId),
    ("list_ids", texts sharepoint.listIds), ("drive_ids", texts sharepoint.driveIds),
    ("metadata_read", .bool sharepoint.metadataRead), ("content_read", .bool false)]

def TodoScope.toValue (todo : TodoScope) : Value :=
  .dict [("enabled", .bool todo.enabled), ("task_list_ids", texts todo.taskListIds),
    ("tasks_read", .bool todo.tasksRead), ("tasks_write", .bool todo.tasksWrite)]

def CalendarScope.toValue (calendar : CalendarScope) : Value :=
  .dict [("enabled", .bool calendar.enabled), ("calendar_ids", texts calendar.calendarIds),
    ("events_read", .bool calendar.eventsRead), ("events_write", .bool calendar.eventsWrite),
    ("freebusy_read", .bool calendar.freebusyRead),
    ("freebusy_subjects", texts calendar.freebusySubjects), ("attendees_write", .bool false)]

def MailScope.toValue (mail : MailScope) : Value :=
  .dict [("enabled", .bool mail.enabled), ("folder_ids", texts mail.folderIds),
    ("metadata_read", .bool mail.metadataRead), ("body_read", .bool false),
    ("drafts_write", .bool mail.draftsWrite), ("send_enabled", .bool mail.sendEnabled)]

def ProfileScopeV1.toValue (scope : ProfileScopeV1) : Value :=
  .dict [("tenant_id", .str scope.tenantId), ("planner", scope.planner.toValue),
    ("sharepoint", scope.sharepoint.toValue)]

def ProfileScopeV2.toValue (scope : ProfileScopeV2) : Value :=
  .dict [("schema_version", .int 2), ("tenant_id", .str scope.tenantId),
    ("workspace_id", .str scope.workspaceId), ("planner", scope.planner.toValue),
    ("sharepoint", scope.sharepoint.toValue), ("todo", scope.todo.toValue),
    ("calendar", scope.calendar.toValue), ("mail", scope.mail.toValue)]

/-- The dictionary that the source passes around. -/
def ProfileScope.toValue : ProfileScope → Value
  | .v1 scope => scope.toValue
  | .v2 scope => scope.toValue

end Values

section Validation

def plannerFields : List String := ["plan_ids", "tasks_read", "tasks_write"]

/-- `_validate_planner_scope`. -/
def validatePlannerScope (value : Value) (allowDisabled : Bool) : Validated PlannerScope := do
  let planner ← exactFields value plannerFields
    "Account Center returned an invalid Planner profile scope"
  let planIds ← uniqueIds (plannerId "Planner plan IDs") "Planner plan IDs" (planner.get "plan_ids")
  let tasksRead ← narrow (planner.get "tasks_read").asBool
    "Account Center returned invalid Planner permission flags"
  let tasksWrite ← narrow (planner.get "tasks_write").asBool
    "Account Center returned invalid Planner permission flags"
  ensure (!tasksWrite || tasksRead) "Account Center returned an incomplete Planner consent scope"
  ensure (planIds.isEmpty || tasksRead)
    "Account Center returned Planner targets without read permission"
  ensure (allowDisabled || (!planIds.isEmpty && tasksRead))
    "Account Center returned an incomplete Planner consent scope"
  pure { planIds, tasksRead, tasksWrite }

/-- `_validate_sharepoint_v2_scope`. -/
def validateSharepointV2Scope (value : Value) : Validated SharepointScope := do
  let sharepoint ← exactFields value
    ["enabled", "site_id", "list_ids", "drive_ids", "metadata_read", "content_read"]
    "Account Center returned an invalid SharePoint profile scope"
  let enabled ← narrow (sharepoint.get "enabled").asBool
    "Account Center returned invalid SharePoint permission flags"
  let metadataRead ← narrow (sharepoint.get "metadata_read").asBool
    "Account Center returned invalid SharePoint permission flags"
  ensure ((sharepoint.get "content_read").asBool = some false)
    "SharePoint content reads are disabled for this Exchange scope"
  let listIds ← uniqueIds validateSharepointListId "SharePoint list IDs" (sharepoint.get "list_ids")
  let driveIds ← uniqueIds (opaqueResourceId "SharePoint drive IDs") "SharePoint drive IDs"
    (sharepoint.get "drive_ids")
  let siteId := (sharepoint.get "site_id").asStr
  ensure (!enabled || (metadataRead && siteId.any isValidSharepointSiteId))
    "Account Center returned an incomplete selected SharePoint scope"
  ensure (enabled || ((sharepoint.get "site_id").isNone && listIds.isEmpty && driveIds.isEmpty &&
      !metadataRead))
    "Account Center returned SharePoint targets while access is disabled"
  pure { enabled, siteId, listIds, driveIds, metadataRead }

/-- `_validate_todo_scope`. -/
def validateTodoScope (value : Value) : Validated TodoScope := do
  let todo ← exactFields value ["enabled", "task_list_ids", "tasks_read", "tasks_write"]
    "Account Center returned an invalid To Do profile scope"
  let taskListIds ← uniqueIds (opaqueResourceId "To Do task list IDs") "To Do task list IDs"
    (todo.get "task_list_ids")
  let enabled ← narrow (todo.get "enabled").asBool
    "Account Center returned invalid To Do permission flags"
  let tasksRead ← narrow (todo.get "tasks_read").asBool
    "Account Center returned invalid To Do permission flags"
  let tasksWrite ← narrow (todo.get "tasks_write").asBool
    "Account Center returned invalid To Do permission flags"
  ensure (!tasksWrite || tasksRead)
    "Account Center returned To Do write permission without read permission"
  ensure (!enabled || tasksRead) "Account Center returned an incomplete To Do scope"
  ensure (enabled || (taskListIds.isEmpty && !tasksRead && !tasksWrite))
    "Account Center returned To Do targets while access is disabled"
  pure { enabled, taskListIds, tasksRead, tasksWrite }

/-- `_validate_calendar_scope`. -/
def validateCalendarScope (value : Value) : Validated CalendarScope := do
  let calendar ← exactFields value
    ["enabled", "calendar_ids", "events_read", "events_write", "freebusy_read",
      "freebusy_subjects", "attendees_write"]
    "Account Center returned an invalid Calendar profile scope"
  let flag (name : String) : Validated Bool := narrow (calendar.get name).asBool
    "Account Center returned invalid Calendar permission flags"
  let enabled ← flag "enabled"
  let eventsRead ← flag "events_read"
  let eventsWrite ← flag "events_write"
  let freebusyRead ← flag "freebusy_read"
  let attendeesWrite ← flag "attendees_write"
  let calendarIds ← uniqueIds (opaqueResourceId "Calendar IDs") "Calendar IDs"
    (calendar.get "calendar_ids")
  let freebusySubjects ← uniqueIds validateSubject "free/busy subjects"
    (calendar.get "freebusy_subjects")
  ensure (!attendeesWrite) "Calendar attendee writes are disabled for this Exchange delivery"
  ensure (!enabled || eventsRead || eventsWrite || freebusyRead)
    "Account Center returned an enabled Calendar with no capability"
  ensure (!enabled || !freebusyRead || !freebusySubjects.isEmpty)
    "Account Center returned free/busy permission without selected subjects"
  ensure (enabled || (calendarIds.isEmpty && freebusySubjects.isEmpty && !eventsRead &&
      !eventsWrite && !freebusyRead))
    "Account Center returned Calendar targets while access is disabled"
  pure { enabled, calendarIds, eventsRead, eventsWrite, freebusyRead, freebusySubjects }

/-- `_validate_mail_scope`. -/
def validateMailScope (value : Value) : Validated MailScope := do
  let mail ← exactFields value
    ["enabled", "folder_ids", "metadata_read", "body_read", "drafts_write", "send_enabled"]
    "Account Center returned an invalid Mail profile scope"
  let flag (name : String) : Validated Bool := narrow (mail.get name).asBool
    "Account Center returned invalid Mail permission flags"
  let enabled ← flag "enabled"
  let metadataRead ← flag "metadata_read"
  let bodyRead ← flag "body_read"
  let draftsWrite ← flag "drafts_write"
  let sendEnabled ← flag "send_enabled"
  ensure (!bodyRead) "Microsoft Graph Mail body reads are disabled for this Exchange delivery"
  let folderIds ← uniqueIds (opaqueResourceId "Mail folder IDs") "Mail folder IDs"
    (mail.get "folder_ids")
  ensure (!enabled || metadataRead || draftsWrite || sendEnabled)
    "Account Center returned an enabled Mail profile without a capability"
  ensure (!enabled || folderIds.isEmpty || metadataRead)
    "Account Center returned Mail folder targets without metadata access"
  ensure (enabled || (folderIds.isEmpty && !metadataRead && !draftsWrite && !sendEnabled))
    "Account Center returned Mail targets while access is disabled"
  pure { enabled, folderIds, metadataRead, draftsWrite, sendEnabled }

/-- `_validate_v1_profile_scope`, whose Planner part cannot be disabled. -/
def validateV1ProfileScope (value : Dict) : Validated ProfileScopeV1 := do
  let tenantId ← narrow ((value.get "tenant_id").asStr.filter isGuid)
    "Account Center returned an invalid Microsoft Graph tenant"
  let planner ← exactFields (value.get "planner") plannerFields
    "Account Center returned an invalid Planner profile scope"
  let planIds ← uniqueIds (plannerId "Planner plan IDs") "Planner plan IDs" (planner.get "plan_ids")
  let tasksRead ← narrow (planner.get "tasks_read").asBool
    "Account Center returned invalid Planner permission flags"
  let tasksWrite ← narrow (planner.get "tasks_write").asBool
    "Account Center returned invalid Planner permission flags"
  ensure (!planIds.isEmpty && tasksRead)
    "Account Center returned an incomplete Planner consent scope"
  let sharepoint ← exactFields (value.get "sharepoint") ["enabled", "site_id", "list_ids"]
    "Account Center returned an invalid SharePoint profile scope"
  let listIds ← uniqueIds validateSharepointListId "SharePoint list IDs" (sharepoint.get "list_ids")
  let enabled ← narrow (sharepoint.get "enabled").asBool
    "Account Center returned an invalid SharePoint permission flag"
  let siteId := (sharepoint.get "site_id").asStr
  ensure (!enabled || (siteId.any isValidSharepointSiteId && !listIds.isEmpty))
    "Account Center returned an incomplete selected SharePoint scope"
  ensure (enabled || ((sharepoint.get "site_id").isNone && listIds.isEmpty))
    "Account Center returned SharePoint targets while access is disabled"
  pure { tenantId := tenantId.lower, planner := { planIds, tasksRead, tasksWrite }
         sharepoint := { enabled, siteId, listIds } }

/-- `_validate_v2_profile_scope`. -/
def validateV2ProfileScope (value : Dict) : Validated ProfileScopeV2 := do
  let tenantId ← canonicalUuid "Microsoft Graph tenant" (value.get "tenant_id")
  let workspaceId ← canonicalUuid "Microsoft Graph workspace" (value.get "workspace_id")
  ensure (match value.get "schema_version" with
      | .int version => decide (version = 2)
      | _ => false)
    "Account Center returned an unsupported Microsoft Graph scope version"
  let planner ← validatePlannerScope (value.get "planner") true
  let sharepoint ← validateSharepointV2Scope (value.get "sharepoint")
  let todo ← validateTodoScope (value.get "todo")
  let calendar ← validateCalendarScope (value.get "calendar")
  let mail ← validateMailScope (value.get "mail")
  pure { tenantId, workspaceId, planner, sharepoint, todo, calendar, mail }

def v1ProfileScopeFields : List String := ["tenant_id", "planner", "sharepoint"]

def v2ProfileScopeFields : List String :=
  ["schema_version", "tenant_id", "workspace_id", "planner", "sharepoint", "todo", "calendar",
    "mail"]

/-- `validate_profile_scope`. -/
def validateProfileScope (value : Value) : Validated ProfileScope := do
  let fields ← narrow value.asDict
    "Account Center returned an invalid Microsoft Graph profile scope"
  if fields.keysAre (v1ProfileScopeFields.map text) then
    ProfileScope.v1 <$> validateV1ProfileScope fields
  else if fields.keysAre (v2ProfileScopeFields.map text) then
    ProfileScope.v2 <$> validateV2ProfileScope fields
  else .error "Account Center returned an invalid Microsoft Graph profile scope"

end Validation

end CyreneExchange.Integrations.Graph
