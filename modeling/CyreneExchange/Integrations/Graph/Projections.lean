import CyreneExchange.Integrations.Graph.Valid

/-! What the product derives from a linked profile scope. Every reader validates
the scope once more, although it holds what the validation returned. -/
namespace CyreneExchange.Integrations.Graph
open CyreneExchange.General CyreneExchange.Gateway

section Readers

/-- `sorted(set(names))`, for names without duplicates. -/
def sortedTexts (names : List Str) : List Str := names.insertionSort fun a b => ¬ b < a

/-- The members that a condition adds to a set. -/
def addIf (condition : Bool) (name : String) : List Str := if condition then [text name] else []

/-- The Graph permissions of a scope that has been validated. -/
def ProfileScope.permissions : ProfileScope → List Str
  | .v1 scope =>
      text "User.Read" :: text "Tasks.Read" ::
        (addIf scope.planner.tasksWrite "Tasks.ReadWrite" ++
          addIf scope.sharepoint.enabled "Sites.Selected")
  | .v2 scope =>
      let tasksWrite := scope.planner.tasksWrite || scope.todo.tasksWrite
      let tasksRead := scope.planner.tasksRead || scope.todo.tasksRead
      let eventsRead := scope.calendar.eventsRead || scope.calendar.freebusyRead
      -- sending an existing draft needs a look at its metadata
      let metadataRead := scope.mail.metadataRead || scope.mail.sendEnabled
      text "User.Read" ::
        (addIf tasksWrite "Tasks.ReadWrite" ++ addIf (!tasksWrite && tasksRead) "Tasks.Read" ++
          addIf scope.sharepoint.enabled "Sites.Selected" ++
          addIf scope.calendar.eventsWrite "Calendars.ReadWrite" ++
          addIf (!scope.calendar.eventsWrite && eventsRead) "Calendars.ReadBasic" ++
          addIf scope.mail.draftsWrite "Mail.ReadWrite" ++
          addIf (!scope.mail.draftsWrite && metadataRead) "Mail.ReadBasic" ++
          addIf scope.mail.sendEnabled "Mail.Send")

/-- `required_graph_permissions`. -/
def requiredGraphPermissions (profileScope : Value) : Validated (List Str) := do
  let scope ← validateProfileScope profileScope
  pure (sortedTexts scope.permissions)

/-- `required_oauth_scopes`. -/
def requiredOauthScopes (profileScope : Value) : Validated (List Str) := do
  let scope ← validateProfileScope profileScope
  let required ← requiredGraphPermissions scope.toValue
  match scope with
  | .v1 _ => pure (sortedTexts required)
  | .v2 _ => pure (sortedTexts (required ++ [text "offline_access"]))

/-- `public_profile_scope`. -/
def publicProfileScope (value : Value) : Validated Value := do
  match ← validateProfileScope value with
  | .v1 scope => pure (.dict [("tenantId", .str scope.tenantId),
      ("planner", .dict [("planIds", texts scope.planner.planIds),
        ("tasksRead", .bool scope.planner.tasksRead),
        ("tasksWrite", .bool scope.planner.tasksWrite)]),
      ("sharepoint", .dict [("enabled", .bool scope.sharepoint.enabled),
        ("siteId", optionalStr scope.sharepoint.siteId),
        ("listIds", texts scope.sharepoint.listIds)])])
  | .v2 scope => pure (.dict [("schemaVersion", .int 2), ("tenantId", .str scope.tenantId),
      ("workspaceId", .str scope.workspaceId),
      ("planner", .dict [("planIds", texts scope.planner.planIds),
        ("tasksRead", .bool scope.planner.tasksRead),
        ("tasksWrite", .bool scope.planner.tasksWrite)]),
      ("sharepoint", .dict [("enabled", .bool scope.sharepoint.enabled),
        ("siteId", optionalStr scope.sharepoint.siteId),
        ("listIds", texts scope.sharepoint.listIds),
        ("driveIds", texts scope.sharepoint.driveIds),
        ("metadataRead", .bool scope.sharepoint.metadataRead), ("contentRead", .bool false)]),
      ("todo", .dict [("enabled", .bool scope.todo.enabled),
        ("taskListIds", texts scope.todo.taskListIds),
        ("tasksRead", .bool scope.todo.tasksRead), ("tasksWrite", .bool scope.todo.tasksWrite)]),
      ("calendar", .dict [("enabled", .bool scope.calendar.enabled),
        ("calendarIds", texts scope.calendar.calendarIds),
        ("eventsRead", .bool scope.calendar.eventsRead),
        ("eventsWrite", .bool scope.calendar.eventsWrite),
        ("freebusyRead", .bool scope.calendar.freebusyRead),
        ("freebusySubjects", texts scope.calendar.freebusySubjects),
        ("attendeesWrite", .bool false)]),
      ("mail", .dict [("enabled", .bool scope.mail.enabled),
        ("folderIds", texts scope.mail.folderIds),
        ("metadataRead", .bool scope.mail.metadataRead), ("bodyRead", .bool false),
        ("draftsWrite", .bool scope.mail.draftsWrite),
        ("sendEnabled", .bool scope.mail.sendEnabled)])])

/-- What `profile_scope_metadata` returns. -/
structure ScopeMetadata where
  scopeSchemaVersion : Nat
  enabledFeatures : List Str
  requiredOauthScopes : List Str
  targetRefCount : Nat
  credentialExpiresAt : Value
  refreshExpiresAt : Value
  reauthRequired : Bool
  authStatus : Str
  reauthReasonCode : Option Str

/-- The features of a scope, in the order in which they are listed. -/
def ProfileScope.enabledFeatures : ProfileScope → List Str
  | .v1 scope =>
      addIf scope.planner.tasksRead "planner_read" ++ addIf scope.planner.tasksWrite "planner_write" ++
        addIf scope.sharepoint.enabled "sharepoint_selected_metadata_read"
  | .v2 scope =>
      addIf scope.planner.tasksRead "planner_read" ++ addIf scope.planner.tasksWrite "planner_write" ++
        addIf scope.todo.enabled "todo" ++ addIf scope.calendar.enabled "calendar" ++
        addIf scope.sharepoint.enabled "sharepoint_drive_metadata" ++
        addIf (scope.mail.enabled && scope.mail.metadataRead) "mail_metadata" ++
        addIf (scope.mail.enabled && scope.mail.draftsWrite) "mail_drafts" ++
        addIf (scope.mail.enabled && scope.mail.sendEnabled) "mail_send"

/-- The targets a scope counts. -/
def ProfileScope.targetRefCount : ProfileScope → Nat
  | .v1 scope =>
      scope.planner.planIds.length +
        if scope.sharepoint.enabled then scope.sharepoint.listIds.length else 0
  | .v2 scope =>
      scope.planner.planIds.length + scope.todo.taskListIds.length +
        scope.calendar.calendarIds.length + scope.calendar.freebusySubjects.length +
        (if scope.sharepoint.enabled then
          scope.sharepoint.listIds.length + scope.sharepoint.driveIds.length else 0) +
        if scope.mail.enabled then scope.mail.folderIds.length else 0

/-- `reauth_required`, at this time in whole seconds. -/
def reauthRequired (row : Dict) (now : Int) : Bool :=
  (match row.get "auth_status" with
    | .str status => [text "reauthorization_required", text "revoked"].contains status
    | _ => false) ||
  match row.get "refresh_expires_at" with
    | .int refreshExpiresAt => decide (refreshExpiresAt ≤ now)
    | _ => false

/-- `profile_scope_metadata`. The lookup of the status in a set needs a hash. -/
def profileScopeMetadata (row : Dict) (now : Int) (scope : Value) : Validated ScopeMetadata := do
  let normalized ← validateProfileScope scope
  ensure (row.get "auth_status").hashable "unhashable type"
  let reauthRequired := reauthRequired row now
  let requiredOauthScopes ← requiredOauthScopes normalized.toValue
  pure
    { scopeSchemaVersion := match normalized with | .v1 _ => 1 | .v2 _ => 2
      enabledFeatures := normalized.enabledFeatures
      requiredOauthScopes
      targetRefCount := normalized.targetRefCount
      credentialExpiresAt := row.get "expires_at"
      refreshExpiresAt := row.get "refresh_expires_at"
      reauthRequired
      authStatus := (row.get "auth_status").asStr.getD (text "unknown")
      reauthReasonCode :=
        if reauthRequired then some (text "microsoft_graph_reauthorization_required") else none }

/-- `target_for_operation`: what it derives for its operation and arguments, or
refuses, depends on the scope as validated. -/
def targetForOperation {Refusal Target : Type} (derive : ProfileScope → Except Refusal Target)
    (profileScope : Value) : Except (String ⊕ Refusal) Target :=
  match validateProfileScope profileScope with
  | .error message => .error (.inl message)
  | .ok scope => (derive scope).mapError .inr

end Readers

section Subjects

/-- The free/busy subjects that a profile value asks for, as they are written in it. -/
def requestedSubjects (value : Value) : List Str :=
  textsOf (field (field value "calendar") "freebusy_subjects")

theorem validateCalendarScope_subjects {value : Value} {calendar : CalendarScope}
    (h : validateCalendarScope value = .ok calendar) :
    calendar.freebusySubjects = (textsOf (field value "freebusy_subjects")).map casefold := by
  obtain ⟨items, hItems, -, hEach, -⟩ := uniqueIds_eq_ok.mp (validateCalendarScope_spec h).2.1
  have hTexts : textsOf (field value "freebusy_subjects") = items.filterMap Value.asStr := by
    rw [hItems]
    rfl
  rw [hTexts]
  exact (texts_of_forall₂ (hEach.imp fun _ _ hItem => validateSubject_eq_ok.mp hItem)).1

/-- A version 1 value has no calendar part. -/
theorem requestedSubjects_v1 {fields : Dict}
    (h : fields.keysAre (v1ProfileScopeFields.map text) = true) :
    requestedSubjects (.dict fields) = [] := by
  have hNone : fields.lookup (text "calendar") = none := by
    rw [List.lookup_eq_none_iff]
    rw [Dict.keysAre, Bool.and_eq_true, List.all_eq_true] at h
    intro entry hMem
    have hKey := h.1 entry hMem
    rw [List.contains_iff_mem] at hKey
    rw [bne_iff_ne]
    intro hSame
    rw [← hSame] at hKey
    exact absurd hKey (by decide)
  have hCalendar : field (.dict fields) "calendar" = .none := by
    change fields.get "calendar" = .none
    rw [Dict.get, Dict.getD, hNone]
    rfl
  rw [requestedSubjects, hCalendar]
  rfl

/-- The subjects of an accepted scope are the requested ones, case folded. -/
theorem freebusySubjects_of_accepted {value : Value} {scope : ProfileScope}
    (h : validateProfileScope value = .ok scope) :
    scope.freebusySubjects = (requestedSubjects value).map casefold := by
  cases scope with
  | v1 scope =>
      obtain ⟨fields, rfl, hKeys, -⟩ := validateProfileScope_v1 h
      rw [requestedSubjects_v1 hKeys]
      rfl
  | v2 scope =>
      obtain ⟨fields, rfl, hScope⟩ := validateProfileScope_v2 h
      exact validateCalendarScope_subjects (validateV2ProfileScope_parts hScope).calendar

end Subjects

section Stability

variable {Refusal Target : Type} {scope : ProfileScope}

/-- No reader refuses the scope. -/
structure ReadersAccept (derive : ProfileScope → Except Refusal Target) (scope : ProfileScope) :
    Prop where
  permissions : requiredGraphPermissions scope.toValue = .ok (sortedTexts scope.permissions)
  oauthScopes : ∃ scopes, requiredOauthScopes scope.toValue = .ok scopes
  projected : ∃ projection, publicProfileScope scope.toValue = .ok projection
  metadata : ∀ (row : Dict) (now : Int), (row.get "auth_status").hashable = true →
    ∃ metadata, profileScopeMetadata row now scope.toValue = .ok metadata
  target : targetForOperation derive scope.toValue = (derive scope).mapError .inr

/-- Every reader accepts a scope that is validated to itself. -/
theorem readersAccept {derive : ProfileScope → Except Refusal Target}
    (h : validateProfileScope scope.toValue = .ok scope) : ReadersAccept derive scope := by
  have hPermissions : requiredGraphPermissions scope.toValue = .ok (sortedTexts scope.permissions) :=
    ok_bind h
  have hScopes : ∃ scopes, requiredOauthScopes scope.toValue = .ok scopes := by
    cases scope with
    | v1 scope => exact ⟨_, (ok_bind h).trans (ok_bind hPermissions)⟩
    | v2 scope => exact ⟨_, (ok_bind h).trans (ok_bind hPermissions)⟩
  refine ⟨hPermissions, hScopes, ?_, ?_, ?_⟩
  · cases scope with
    | v1 scope => exact ⟨_, ok_bind h⟩
    | v2 scope => exact ⟨_, ok_bind h⟩
  · intro row now hStatus
    obtain ⟨scopes, hScopes⟩ := hScopes
    exact ⟨_, (ok_bind h).trans ((ensure_bind hStatus).trans (ok_bind hScopes))⟩
  · rw [targetForOperation, h]

/-- A scope that was accepted is accepted again, unchanged and by every reader,
where no requested subject grows past its bound when it is case folded. -/
theorem accepted_scope_stays_iff {value : Value} (derive : ProfileScope → Except Refusal Target)
    (h : validateProfileScope value = .ok scope) :
    (validateProfileScope scope.toValue = .ok scope ∧ ReadersAccept derive scope) ↔
      ∀ subject ∈ requestedSubjects value, (casefold subject).length ≤ 320 := by
  have hShort := freebusySubjects_of_accepted h
  rw [and_iff_left_of_imp readersAccept, validateProfileScope_toValue (validateProfileScope_valid h),
    hShort, List.forall_mem_map]

/-- A version 2 profile that asks for the free/busy times of one subject. -/
def freebusyProfile (subject : Str) : Value :=
  .dict [("schema_version", .int 2),
    ("tenant_id", .str (text "11111111-2222-3333-4444-555555555555")),
    ("workspace_id", .str (text "aaaaaaaa-bbbb-cccc-dddd-eeeeeeeeeeee")),
    ("planner", .dict [("plan_ids", .list []), ("tasks_read", .bool false),
      ("tasks_write", .bool false)]),
    ("sharepoint", .dict [("enabled", .bool false), ("site_id", .none), ("list_ids", .list []),
      ("drive_ids", .list []), ("metadata_read", .bool false), ("content_read", .bool false)]),
    ("todo", .dict [("enabled", .bool false), ("task_list_ids", .list []),
      ("tasks_read", .bool false), ("tasks_write", .bool false)]),
    ("calendar", .dict [("enabled", .bool true), ("calendar_ids", .list []),
      ("events_read", .bool false), ("events_write", .bool false), ("freebusy_read", .bool true),
      ("freebusy_subjects", .list [.str subject]), ("attendees_write", .bool false)]),
    ("mail", .dict [("enabled", .bool false), ("folder_ids", .list []),
      ("metadata_read", .bool false), ("body_read", .bool false), ("drafts_write", .bool false),
      ("send_enabled", .bool false)])]

theorem accepted_scope_stays_iff_sample :
    ∃ scope, validateProfileScope (freebusyProfile (text "Ada@Example.org")) = .ok scope ∧
      validateProfileScope scope.toValue = .ok scope ∧
        ReadersAccept (fun scope => (pure scope : Except String ProfileScope)) scope := by
  have hAccepted : ∃ scope,
      validateProfileScope (freebusyProfile (text "Ada@Example.org")) = .ok scope := ⟨_, rfl⟩
  obtain ⟨scope, h⟩ := hAccepted
  exact ⟨scope, h, (accepted_scope_stays_iff _ h).mpr (by decide)⟩

/-- A hundred and sixty times the sharp s in front of the at sign. -/
def longFolding : Str := List.replicate 160 (223 : CodePoint) ++ text "@a"

/-- The subject is short enough as it is written, and too long once it is folded. -/
theorem long_folding_refused : ¬ ∀ (value : Value) (scope : ProfileScope),
    validateProfileScope value = .ok scope → validateProfileScope scope.toValue = .ok scope := by
  intro hClaim
  have hOk : (validateProfileScope (freebusyProfile longFolding)).isOk = true := by decide +kernel
  obtain ⟨scope, h⟩ : ∃ scope, validateProfileScope (freebusyProfile longFolding) = .ok scope := by
    cases hResult : validateProfileScope (freebusyProfile longFolding) with
    | ok scope => exact ⟨scope, rfl⟩
    | error message => rw [hResult] at hOk; cases hOk
  have hShort := (validateProfileScope_toValue (validateProfileScope_valid h)).mp (hClaim _ _ h)
  rw [freebusySubjects_of_accepted h] at hShort
  exact absurd hShort (by decide +kernel)

end Stability

end CyreneExchange.Integrations.Graph
