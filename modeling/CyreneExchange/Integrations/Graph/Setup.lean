import CyreneExchange.General.Dialogue
import CyreneExchange.Integrations.Graph.HostPolicy
import CyreneExchange.Integrations.Graph.Projections

/-! Office setup: the owner reads what the provider offers and selects targets
among it, and Account Center swaps the stored scope against its revision. -/
namespace CyreneExchange.Integrations.Graph
open CyreneExchange.General CyreneExchange.Gateway

section Services

/-- What the setup raises: an `OfficeSetupError` with its state, whatever a provider
read raised before it answered, or an exception that nobody expects. -/
inductive SetupFailure where
  | office (reasonCode state : String)
  | provider (reason : String)
  | valueError (message : String)
  | unexpected (exception : String)
deriving DecidableEq, Repr

/-- `OfficeSetupError(reason_code)`. -/
def officeError (reasonCode : String) : SetupFailure := .office reasonCode "FAILED"

/-- `if not condition: raise OfficeSetupError(reason_code)`. -/
def require (condition : Bool) (reasonCode : String) : Except SetupFailure Unit :=
  if condition then .ok () else .error (officeError reasonCode)

/-- The value that a test narrows to. -/
def expectSome {α : Type} (value : Option α) (reasonCode : String) : Except SetupFailure α :=
  match value with
  | some a => .ok a
  | none => .error (officeError reasonCode)

/-- The arguments of `update_microsoft_graph_v2_scope`. -/
structure ScopeUpdate where
  profileRef : Str
  workspaceId : Str
  expectedCredentialRevision : Int
  targetScope : ProfileScope
  idempotencyKey : Str

/-- An exchange of the setup with a clock, Account Center or a provider. -/
inductive SetupEvent where
  | clockRead (now : Int)
  | profilesRead (response : Option Value)
  | pageRead (operationId : String) (arguments : Dict) (response : Except String Value)
  | updateSent (update : ScopeUpdate) (returned : Bool)

/-- Everything outside: any answer may depend on all that came before. A read of the
profiles that raises gives None, and an update may raise after it has committed. -/
structure Services where
  now : List SetupEvent → Int
  profiles : List SetupEvent → Option Value
  page : List SetupEvent → String → Dict → Except String Value
  update : List SetupEvent → ScopeUpdate → Bool
  /-- `digest_arguments`, None where the value has no canonical form. -/
  digest : Value → Option Str
  /-- `datetime.fromtimestamp(value, UTC)` as text, None past the last year. -/
  isoformat : Int → Option Str

abbrev Setup := Dialogue SetupEvent SetupFailure

/-- A check whose ValueError is passed on. -/
def passing {α : Type} (x : Validated α) : Except SetupFailure α := x.mapError .valueError

def readClock (services : Services) : Setup Int := .ask .clockRead services.now

end Services

section Profiles

/-- What `_validate_graph_profile` needs of the host: a profile with an Office policy. -/
structure OfficeHost where
  profile : AuthorizationProviderProfile
  office : OfficeV2Profile
  configured : profile.microsoftGraphOfficeV2 = some office

/-- `text.split(":", maxsplit=1)` into two parts. -/
def splitSubject (s : Str) : Option (Str × Str) :=
  match s.dropWhile (fun c => c.val != 58) with
  | _ :: objectId => some (s.takeWhile fun c => c.val != 58, objectId)
  | [] => none

/-- A positive integer. -/
def isPositive : Value → Bool
  | .int n => decide (0 < n)
  | _ => false

/-- The texts of a list that holds nothing else. -/
def onlyTexts (value : Value) : Option (List Str) :=
  (listItems value).bind fun items =>
    if items.all fun item => item.asStr.isSome then some (items.filterMap Value.asStr) else none

/-- The tenant of a scope. -/
def ProfileScope.tenantId : ProfileScope → Str
  | .v1 scope => scope.tenantId
  | .v2 scope => scope.tenantId

/-- The workspace of a version 2 scope agrees with the row and the principal. -/
def checkWorkspace (row : Dict) (scope : ProfileScope) (principal : MicrosoftPrincipal) :
    Validated Unit :=
  match scope with
  | .v1 _ => pure ()
  | .v2 scope => do
      ensure ((row.get "workspace_id").isNone ||
          (row.get "workspace_id").asStr = some scope.workspaceId)
        "Account Center Microsoft Graph profile workspace does not match scope"
      ensure (principal.workspaceId = scope.workspaceId)
        "Microsoft Graph profile belongs to another workspace"

/-- `validate_profile_identity`, for a given principal. -/
def validateProfileIdentity (row : Dict) (profileRef : Str) (principal : MicrosoftPrincipal) :
    Validated ProfileScope := do
  let scope ← validateProfileScope (row.get "target_scope")
  ensure ((row.get "profile_ref").asStr = some profileRef &&
      (row.get "provider").asStr = some (text "microsoft_graph") &&
      (row.get "auth_mode").asStr = some (text "delegated_oauth") &&
      (row.getD "access_mode" (.str (text "actor_owned"))).asStr = some (text "actor_owned") &&
      (row.get "external_subject").asStr.isSome &&
      (row.get "external_subject").asStr = (row.get "identity_ref").asStr)
    "Account Center returned a mismatched Microsoft Graph identity"
  let (tenantId, objectId) ← narrow
    (((row.get "external_subject").asStr.bind splitSubject).filter fun parts =>
      parts.1 = scope.tenantId && isGuid parts.2)
    "Account Center returned an invalid Microsoft Graph subject"
  let canonicalObjectId ← narrow (uuidText objectId)
    "Account Center returned an invalid Microsoft Graph object ID"
  ensure (objectId = canonicalObjectId)
    "Account Center returned a non-canonical Microsoft Graph object ID"
  let _ ← requireMicrosoftProfileActor principal (row.get "external_subject") tenantId
  checkWorkspace row scope principal
  let expected ← requiredGraphPermissions scope.toValue
  ensure ((onlyTexts (row.get "oauth_scopes")).any fun oauthScopes =>
      decide oauthScopes.Nodup && oauthScopes.all expected.contains &&
        expected.all oauthScopes.contains)
    "Account Center returned unsupported Microsoft Graph OAuth scopes"
  ensure ((row.get "refresh_expires_at").isNone || isPositive (row.get "refresh_expires_at"))
    "Account Center returned an invalid Microsoft Graph refresh expiry"
  ensure (isPositive (row.get "expires_at"))
    "Account Center returned an invalid Microsoft Graph expiry"
  pure scope

/-- PermissionError and ValueError mean that the profile does not match. -/
def mismatch : ScopeRefusal → SetupFailure
  | .permissionError _ => officeError "office_graph_profile_scope_mismatch"
  | .valueError _ => officeError "office_graph_profile_scope_mismatch"
  | .indexError => .unexpected "IndexError"

/-- `_validate_graph_profile`. -/
def validateGraphProfile (host : OfficeHost) (principal : MicrosoftPrincipal) (profileRef : Str)
    (value : Dict) : Except SetupFailure Dict := do
  let scope ← (validateProfileIdentity value profileRef principal).mapError
    fun _ => officeError "office_graph_profile_scope_mismatch"
  let _ ← (validateMicrosoftGraphOfficeV2Scope host.profile scope.toValue principal).mapError mismatch
  require ((value.getD "access_mode" (.str (text "actor_owned"))).asStr = some (text "actor_owned"))
    "office_graph_profile_access_mode_invalid"
  require ((value.get "auth_status").asStr.any fun status =>
      ([text "unknown", text "configured", text "healthy", text "unavailable",
        text "reauthorization_required", text "revoked"] : List Str).contains status)
    "office_graph_profile_auth_status_invalid"
  pure value

/-- The rows of the profile list that carry this reference. -/
def matchingRows (rows : List Value) (profileRef : Str) : List Dict :=
  (rows.filterMap Value.asDict).filter fun row =>
    (row.get "profile_ref").asStr = some profileRef &&
      (row.get "provider").asStr = some (text "microsoft_graph")

/-- The one row of the profile list, if there is any. -/
def selectRow (host : OfficeHost) (principal : MicrosoftPrincipal) (profileRef : Str)
    (response : Value) : Except SetupFailure (Option Dict) := do
  let rows ← expectSome (listItems (field response "profiles")) "account_center_profile_list_invalid"
  match matchingRows rows profileRef with
  | [] => pure none
  | [row] => (validateGraphProfile host principal profileRef row).map some
  | _ => .error (officeError "account_center_profile_duplicate")

/-- `_read_profile`. -/
def readProfile (services : Services) (host : OfficeHost) (principal : MicrosoftPrincipal)
    (profileRef : Str) : Setup (Option Dict) := do
  let response ← .ask .profilesRead services.profiles
  let profiles ← .lift (expectSome response "office_graph_profile_read_failed")
  .lift (selectRow host principal profileRef profiles)

end Profiles

section Snapshots

/-- The scope that is stored in a profile. -/
def storedScope (profile : Dict) : Except SetupFailure ProfileScope :=
  passing (validateProfileScope (profile.get "target_scope"))

/-- `profile_scope_metadata`, now. -/
def readMetadata (services : Services) (profile : Dict) (scope : ProfileScope) :
    Setup ScopeMetadata := do
  let now ← readClock services
  .lift (passing (profileScopeMetadata profile now scope.toValue))

/-- `_selected_target_ids`. A site is not among the selectable targets. -/
def selectedTargetIds (scope : ProfileScopeV2) : OfficeTarget → List Str
  | .plannerPlanIds => scope.planner.planIds
  | .sharePointSiteIds => []
  | .sharePointListIds => scope.sharepoint.listIds
  | .sharePointDriveIds => scope.sharepoint.driveIds
  | .toDoTaskListIds => scope.todo.taskListIds
  | .calendarIds => scope.calendar.calendarIds
  | .freebusySubjects => scope.calendar.freebusySubjects
  | .mailFolderIds => scope.mail.folderIds

/-- `_epoch_text`. -/
def epochText (services : Services) : Value → Except SetupFailure (Option Str)
  | .none => .ok none
  | .int value =>
      if 0 < value then
        match services.isoformat value with
        | some rendered => .ok (some rendered)
        | none => .error (.unexpected "ValueError")
      else .error (officeError "account_center_expiry_invalid")
  | _ => .error (officeError "account_center_expiry_invalid")

def isHealthy (profile : Dict) : Bool := (profile.get "auth_status").asStr = some (text "healthy")

/-- Which mail features the host asks for, and which of them the scope grants. -/
def mailFlags (office : OfficeV2Profile) (scope : ProfileScopeV2) : List (Bool × Bool) :=
  [(office.enabledFeatures .mailMetadataEnabled, scope.mail.metadataRead),
    (office.enabledFeatures .mailDraftsEnabled, scope.mail.draftsWrite),
    (office.enabledFeatures .mailSendEnabled, scope.mail.sendEnabled)]

/-- `_mail_authorization_state`. -/
def mailAuthorizationState (services : Services) (office : OfficeV2Profile) (scope : ProfileScopeV2)
    (profile : Dict) : Setup String :=
  if !(mailFlags office scope).any Prod.fst then pure "DISABLED"
  else if !isHealthy profile then pure "REAUTHORIZATION_REQUIRED"
  else do
    let metadata ← readMetadata services profile (.v2 scope)
    if metadata.reauthRequired ||
        (mailFlags office scope).any fun flags => flags.1 && !flags.2 then
      pure "REAUTHORIZATION_REQUIRED"
    else pure "READY"

/-- What the setup page is shown. -/
structure SetupSnapshot where
  state : String
  profileRef : Str
  authStatus : Value
  externalSubject : Value
  scopeSchemaVersion : Nat
  targetScope : Value
  selectedTargets : OfficeTarget → List Str
  requiredOauthScopes : List Str
  enabledFeatures : OfficeFeature → Bool
  targetRefCount : Nat
  credentialExpiresAt : Option Str
  refreshExpiresAt : Option Str
  credentialRevision : Value
  reauthRequired : Bool
  reauthReasonCode : Option Str
  mailAuthorizationState : String

/-- The features that a scope makes use of. -/
def ProfileScopeV2.enabledFeatures (scope : ProfileScopeV2) : OfficeFeature → Bool
  | .plannerEnabled => scope.planner.tasksRead
  | .todoEnabled => scope.todo.enabled
  | .calendarEnabled => scope.calendar.enabled
  | .mailMetadataEnabled => scope.mail.metadataRead
  | .mailDraftsEnabled => scope.mail.draftsWrite
  | .mailSendEnabled => scope.mail.sendEnabled
  | .sharePointDriveMetadataEnabled => scope.sharepoint.enabled

/-- `_profile_snapshot`. -/
def profileSnapshot (services : Services) (host : OfficeHost) (profileRef : Str) (profile : Dict)
    (state : String) : Setup SetupSnapshot := do
  let scope ← .lift (storedScope profile)
  let metadata ← readMetadata services profile scope
  match scope with
  | .v1 _ => .fail (.unexpected "KeyError")
  | .v2 scope => do
      let targetScope ← .lift (passing (publicProfileScope scope.toValue))
      let credentialExpiresAt ← .lift (epochText services (profile.get "expires_at"))
      let refreshExpiresAt ← .lift (epochText services (profile.get "refresh_expires_at"))
      let mailState ← mailAuthorizationState services host.office scope profile
      pure
        { state, profileRef, targetScope, credentialExpiresAt, refreshExpiresAt
          authStatus := profile.getD "auth_status" (.str (text "unknown"))
          externalSubject := profile.get "external_subject"
          scopeSchemaVersion := metadata.scopeSchemaVersion
          selectedTargets := selectedTargetIds scope
          requiredOauthScopes := metadata.requiredOauthScopes
          enabledFeatures := scope.enabledFeatures
          targetRefCount := metadata.targetRefCount
          credentialRevision := profile.get "credential_revision"
          reauthRequired := metadata.reauthRequired
          reauthReasonCode := metadata.reauthReasonCode
          mailAuthorizationState := mailState }

end Snapshots

section Reads

open General.Dialogue

/-- An exchange that changes nothing. -/
def IsRead : SetupEvent → Prop
  | .updateSent _ _ => False
  | _ => True

instance instDecidablePredIsRead : DecidablePred IsRead
  | .updateSent _ _ => inferInstanceAs (Decidable False)
  | .clockRead _ => inferInstanceAs (Decidable True)
  | .profilesRead _ => inferInstanceAs (Decidable True)
  | .pageRead _ _ _ => inferInstanceAs (Decidable True)

variable {services : Services} {host : OfficeHost} {principal : MicrosoftPrincipal}
  {profileRef : Str} {profile : Dict} {state : String}

theorem readClock_reads : Emits IsRead (readClock services) := emits_ask (fun _ => trivial) _

theorem readProfile_reads : Emits IsRead (readProfile services host principal profileRef) := by
  refine .bind (emits_ask (fun _ => trivial) _) fun response => ?_
  exact .bind (emits_lift _) fun profiles => emits_lift _

theorem readMetadata_reads {scope : ProfileScope} :
    Emits IsRead (readMetadata services profile scope) :=
  .bind readClock_reads fun _ => emits_lift _

theorem mailAuthorizationState_reads {office : OfficeV2Profile} {scope : ProfileScopeV2} :
    Emits IsRead (mailAuthorizationState services office scope profile) := by
  unfold mailAuthorizationState
  split
  · exact emits_pure _
  split
  · exact emits_pure _
  refine .bind readMetadata_reads fun metadata => ?_
  split
  · exact emits_pure _
  · exact emits_pure _

theorem profileSnapshot_reads :
    Emits IsRead (profileSnapshot services host profileRef profile state) := by
  refine .bind (emits_lift _) fun scope => .bind readMetadata_reads fun metadata => ?_
  cases scope with
  | v1 scope => exact emits_lift _
  | v2 scope =>
      refine .bind (emits_lift _) fun targetScope => .bind (emits_lift _) fun credential => ?_
      refine .bind (emits_lift _) fun refresh => ?_
      exact .bind mailAuthorizationState_reads fun mailState => emits_pure _

end Reads

section Refusals

open General.Dialogue

/-- The refusals of a selection by discovery or by an allowlist. -/
def isTargetRefusal : SetupFailure → Bool
  | .office reasonCode _ => reasonCode == "office_graph_target_not_discovered" ||
      reasonCode == "office_graph_target_outside_host_allowlist"
  | _ => false

/-- Failures that are not about the targets of a selection. -/
abbrev IsOtherFailure (e : SetupFailure) : Prop := isTargetRefusal e = false

variable {α : Type} {reasonCode : String}

theorem settles_require {condition : Bool} (h : IsOtherFailure (officeError reasonCode)) :
    Settles IsOtherFailure (require condition reasonCode) := by
  cases condition with
  | true => exact settles_ok ()
  | false => exact (settles_error _).mpr h

theorem settles_expectSome {value : Option α} (h : IsOtherFailure (officeError reasonCode)) :
    Settles IsOtherFailure (expectSome value reasonCode) := by
  cases value with
  | some a => exact settles_ok a
  | none => exact (settles_error _).mpr h

theorem settles_mapError {ε ε' : Type} {expected : ε' → Prop} {x : Except ε α} {f : ε → ε'}
    (h : ∀ e, expected (f e)) : Settles expected (x.mapError f) := by
  cases x with
  | ok a => exact settles_ok a
  | error e => exact (settles_error _).mpr (h e)

theorem settles_passing (x : Validated α) : Settles IsOtherFailure (passing x) :=
  settles_mapError fun _ => rfl

variable {services : Services} {host : OfficeHost} {principal : MicrosoftPrincipal}
  {profileRef : Str} {profile : Dict} {state : String}

theorem validateGraphProfile_settles :
    Settles IsOtherFailure (validateGraphProfile host principal profileRef profile) := by
  refine settles_bind.mpr ⟨settles_mapError fun _ => by decide, fun scope _ => ?_⟩
  refine settles_bind.mpr ⟨settles_mapError fun refusal => ?_, fun accepted _ => ?_⟩
  · have hMismatch : IsOtherFailure (officeError "office_graph_profile_scope_mismatch") := by decide
    cases refusal with
    | permissionError message => exact hMismatch
    | valueError message => exact hMismatch
    | indexError => exact rfl
  refine settles_bind.mpr ⟨settles_require (by decide), fun _ _ => ?_⟩
  exact settles_bind.mpr ⟨settles_require (by decide), fun _ _ => settles_ok profile⟩

theorem selectRow_settles {response : Value} :
    Settles IsOtherFailure (selectRow host principal profileRef response) := by
  refine settles_bind.mpr ⟨settles_expectSome (by decide), fun rows _ => ?_⟩
  split
  · exact settles_ok none
  · exact settles_map.mpr validateGraphProfile_settles
  · exact (settles_error _).mpr (by decide)

theorem readProfile_fails :
    Fails IsOtherFailure (readProfile services host principal profileRef) := by
  refine .bind (fails_ask _ _) fun response => ?_
  exact .bind (fails_lift (settles_expectSome (by decide))) fun profiles =>
    fails_lift selectRow_settles

theorem readMetadata_fails {scope : ProfileScope} :
    Fails IsOtherFailure (readMetadata services profile scope) :=
  .bind (fails_ask _ _) fun _ => fails_lift (settles_passing _)

theorem epochText_settles {value : Value} : Settles IsOtherFailure (epochText services value) := by
  unfold epochText
  split
  · exact settles_ok none
  · split
    · split
      · exact settles_ok _
      · exact (settles_error _).mpr rfl
    · exact (settles_error _).mpr (by decide)
  · exact (settles_error _).mpr (by decide)

theorem mailAuthorizationState_fails {office : OfficeV2Profile} {scope : ProfileScopeV2} :
    Fails IsOtherFailure (mailAuthorizationState services office scope profile) := by
  unfold mailAuthorizationState
  split
  · exact fails_pure _
  split
  · exact fails_pure _
  refine .bind readMetadata_fails fun metadata => ?_
  split
  · exact fails_pure _
  · exact fails_pure _

theorem profileSnapshot_fails :
    Fails IsOtherFailure (profileSnapshot services host profileRef profile state) := by
  refine .bind (fails_lift (settles_passing _)) fun scope => .bind readMetadata_fails fun _ => ?_
  cases scope with
  | v1 scope => exact fails_lift ((settles_error _).mpr rfl)
  | v2 scope =>
      refine .bind (fails_lift (settles_passing _)) fun targetScope => ?_
      refine .bind (fails_lift epochText_settles) fun credential => ?_
      refine .bind (fails_lift epochText_settles) fun refresh => ?_
      exact .bind mailAuthorizationState_fails fun mailState => fails_pure _

end Refusals

section Accepted

variable {host : OfficeHost} {principal : MicrosoftPrincipal} {profileRef : Str} {profile : Dict}

theorem mapError_eq_ok {ε ε' α : Type} {x : Except ε α} {f : ε → ε'} {a : α} :
    x.mapError f = .ok a ↔ x = .ok a := by
  cases x <;> simp [Except.mapError]

theorem require_eq_ok {condition : Bool} {reasonCode : String} {u : Unit} :
    require condition reasonCode = .ok u ↔ condition = true := by
  cases condition <;> simp [require]

theorem expectSome_eq_ok {α : Type} {value : Option α} {reasonCode : String} {a : α} :
    expectSome value reasonCode = .ok a ↔ value = some a := by
  cases value <;> simp [expectSome]

theorem ProfileScopeV2.folded_of_valid {scope : ProfileScopeV2} (h : scope.Valid) :
    scope.folded = scope := by
  have hSubjects : scope.calendar.freebusySubjects.map casefold = scope.calendar.freebusySubjects :=
    (List.map_congr_left fun id hMem => (h.calendar.freebusySubjects.all id hMem).folded).trans
      (List.map_id' _)
  rw [ProfileScopeV2.folded, hSubjects]

/-- A version 2 scope is stored that is accepted, and was accepted as it is. -/
structure AcceptedProfile (host : OfficeHost) (principal : MicrosoftPrincipal) (profile : Dict)
    (stored : ProfileScopeV2) : Prop where
  valid : validateProfileScope (profile.get "target_scope") = .ok (.v2 stored)
  accepted : ScopeAccepted host.profile host.office principal stored.toValue stored

theorem validateProfileIdentity_scope {scope : ProfileScope}
    (h : validateProfileIdentity profile profileRef principal = .ok scope) :
    validateProfileScope (profile.get "target_scope") = .ok scope := by
  obtain ⟨found, hFound, h⟩ := except_bind_eq_ok.mp h
  obtain ⟨_, -, h⟩ := except_bind_eq_ok.mp h
  obtain ⟨⟨tenantId, objectId⟩, -, h⟩ := except_bind_eq_ok.mp h
  obtain ⟨canonicalObjectId, -, h⟩ := except_bind_eq_ok.mp h
  obtain ⟨_, -, h⟩ := except_bind_eq_ok.mp h
  obtain ⟨actor, -, h⟩ := except_bind_eq_ok.mp h
  obtain ⟨_, -, h⟩ := except_bind_eq_ok.mp h
  obtain ⟨expected, -, h⟩ := except_bind_eq_ok.mp h
  obtain ⟨_, -, h⟩ := except_bind_eq_ok.mp h
  obtain ⟨_, -, h⟩ := except_bind_eq_ok.mp h
  obtain ⟨_, -, h⟩ := except_bind_eq_ok.mp h
  cases h
  exact hFound

theorem validateGraphProfile_accepted {row : Dict}
    (h : validateGraphProfile host principal profileRef row = .ok profile) :
    row = profile ∧ ∃ stored, AcceptedProfile host principal profile stored := by
  obtain ⟨scope, hIdentity, h⟩ := except_bind_eq_ok.mp h
  obtain ⟨found, hFound, h⟩ := except_bind_eq_ok.mp h
  obtain ⟨_, -, h⟩ := except_bind_eq_ok.mp h
  obtain ⟨_, -, h⟩ := except_bind_eq_ok.mp h
  cases h
  have hScope := validateProfileIdentity_scope (mapError_eq_ok.mp hIdentity)
  have hAccepted := (validateMicrosoftGraphOfficeV2Scope_eq_ok host.configured).mp
    (mapError_eq_ok.mp hFound)
  refine ⟨rfl, found, ?_⟩
  have hValid := validateProfileScope_valid hScope
  cases scope with
  | v1 scope =>
      have hSame := hAccepted.valid
      rw [show (ProfileScope.v1 scope).toValue = scope.toValue from rfl,
        validateV1ProfileScope_toValue hValid] at hSame
      cases hSame
  | v2 scope =>
      have hSame : found = scope.folded :=
        ProfileScope.v2.inj (validateProfileScope_readBack hAccepted.valid)
      rw [ProfileScopeV2.folded_of_valid hValid] at hSame
      subst hSame
      exact ⟨hScope, hAccepted⟩

/-- The row that is read was accepted on its own. -/
theorem selectRow_accepted {response : Value}
    (h : selectRow host principal profileRef response = .ok (some profile)) :
    ∃ stored, AcceptedProfile host principal profile stored := by
  obtain ⟨rows, -, h⟩ := except_bind_eq_ok.mp h
  split at h
  next => cases h
  next row _ =>
    cases hRow : validateGraphProfile host principal profileRef row with
    | error e =>
        rw [hRow] at h
        cases h
    | ok found =>
        rw [hRow] at h
        cases h
        exact (validateGraphProfile_accepted hRow).2
  next => cases h

variable {services : Services} {history : List SetupEvent}

theorem readProfile_eq_some
    (h : (readProfile services host principal profileRef history).result = .ok (some profile)) :
    ∃ response, (readProfile services host principal profileRef history).events =
      [.profilesRead (some response)] ∧
        selectRow host principal profileRef response = .ok (some profile) := by
  obtain ⟨response, hAsk, h⟩ := Dialogue.result_bind_eq_ok.mp h
  obtain ⟨profiles, hProfiles, h⟩ := Dialogue.result_bind_eq_ok.mp h
  refine ⟨profiles, ?_, h⟩
  have hResponse : response = some profiles := expectSome_eq_ok.mp hProfiles
  rw [readProfile, Dialogue.events_bind_of_ok hAsk, Dialogue.events_bind_of_ok hProfiles]
  rw [← hResponse, ← Except.ok.inj hAsk]
  rfl

end Accepted

end CyreneExchange.Integrations.Graph
