import CyreneExchange.Integrations.Graph.HostPolicy

/-! Which host policies can be linked: the policy is read once by the host, and
checked again, field by field, when its first scope is built and validated. -/
namespace CyreneExchange.Integrations.Graph
open CyreneExchange.General CyreneExchange.Gateway

section Targets

/-- What the parser lets through for one name. -/
structure TargetsParsed (name : OfficeTarget) (rawValues : Value) (ids : List Str) : Prop where
  bounded : ids.length ≤ 100
  distinct : ids.Nodup
  copied : name ≠ .freebusySubjects → ids = textsOf rawValues
  folded : name = .freebusySubjects → ids = (textsOf rawValues).map casefold ∧
    ∀ subject ∈ textsOf rawValues, isAddress subject = true

variable {name : OfficeTarget} {rawValues : Value} {ids : List Str}

theorem parseTarget_eq_ok {item : Value} {id : Str} (h : parseTarget name item = .ok id) :
    ∃ target, item = .str target ∧ (name = .freebusySubjects → isAddress target = true) ∧
      id = if name = .freebusySubjects then casefold target else target := by
  obtain ⟨target, hTarget, h⟩ := except_bind_eq_ok.mp h
  obtain ⟨hStr, -⟩ := Option.filter_eq_some_iff.mp (narrow_eq_ok.mp hTarget)
  refine ⟨target, Value.asStr_eq_some.mp hStr, ?_⟩
  split at h
  next hName =>
    obtain ⟨_, hAddress, h⟩ := except_bind_eq_ok.mp h
    cases h
    exact ⟨fun _ => ensure_eq_ok.mp hAddress, (if_pos hName).symm⟩
  next hName =>
    cases h
    exact ⟨fun hSubject => absurd hSubject hName, (if_neg hName).symm⟩

theorem parseTargets_parsed (h : parseTargets name rawValues = .ok ids) :
    TargetsParsed name rawValues ids := by
  obtain ⟨items, hItems, h⟩ := except_bind_eq_ok.mp h
  obtain ⟨parsed, hParsed, h⟩ := except_bind_eq_ok.mp h
  obtain ⟨_, hDistinct, h⟩ := except_bind_eq_ok.mp h
  cases h
  obtain ⟨hList, hBounded⟩ := Option.filter_eq_some_iff.mp (narrow_eq_ok.mp hItems)
  have hTexts : textsOf rawValues = items.filterMap Value.asStr := by
    rw [textsOf, hList]
    rfl
  have hEach : List.Forall₂ (fun item id => ∃ target, item = .str target ∧
      (name = .freebusySubjects → isAddress target = true) ∧
        id = if name = .freebusySubjects then casefold target else target) items ids :=
    forall₂_of_each (fun _ _ _ _ hItem => parseTarget_eq_ok hItem) hParsed
  obtain ⟨hIds, hAddresses⟩ := texts_of_forall₂ hEach
  rw [← hTexts] at hIds hAddresses
  refine ⟨?_, by simpa [ensure_eq_ok] using hDistinct, ?_, ?_⟩
  · simpa [hEach.length_eq] using hBounded
  · intro hOther
    simpa [hOther] using hIds
  · rintro rfl
    exact ⟨by simpa using hIds, fun subject hMem => hAddresses subject hMem rfl⟩

theorem targetOfKey_name (name : OfficeTarget) : targetOfKey (text name.name) = some name := by
  cases name <;> decide

theorem parseTargetEntries_lookup {entries : Dict} {parsed : List (Str × List Str)}
    (h : parseTargetEntries entries = .ok parsed)
    (hRaw : entries.lookup (text name.name) = some rawValues) :
    TargetsParsed name rawValues ((parsed.lookup (text name.name)).getD []) := by
  have hEach : List.Forall₂ (fun entry result => result.1 = entry.1 ∧
      ∃ name, targetOfKey entry.1 = some name ∧ parseTargets name entry.2 = .ok result.2)
        entries parsed := by
    refine forall₂_of_each (fun entry _ _ result hEntry => ?_) h
    obtain ⟨found, hName, hEntry⟩ := except_bind_eq_ok.mp hEntry
    obtain ⟨targets, hTargets, hEntry⟩ := except_bind_eq_ok.mp hEntry
    cases hEntry
    exact ⟨rfl, found, narrow_eq_ok.mp hName, hTargets⟩
  clear h
  induction hEach with
  | nil => cases hRaw
  | @cons entry result rest results hEntry _ ih =>
      obtain ⟨hKey, found, hFound, hTargets⟩ := hEntry
      obtain ⟨key, value⟩ := entry
      obtain ⟨_, targets⟩ := result
      dsimp only at hKey hFound hTargets
      cases hKey
      rw [List.lookup_cons] at hRaw ⊢
      cases hSame : text name.name == key with
      | true =>
          rw [hSame] at hRaw
          cases hRaw
          rw [← beq_iff_eq.mp hSame, targetOfKey_name] at hFound
          cases hFound
          exact parseTargets_parsed hTargets
      | false =>
          rw [hSame] at hRaw
          exact ih hRaw

end Targets

section Policies

/-- The raw targets of a policy value. -/
def rawTargets (value : Value) (name : OfficeTarget) : Value := field (field value "targets") name.name

/-- The targets of a policy agree with its features. -/
structure TargetsChecked (features : OfficeFeature → Bool) (targets : OfficeTarget → List Str) :
    Prop where
  plans : ∀ id ∈ targets .plannerPlanIds, isPlannerId id = true
  sites : ∀ id ∈ targets .sharePointSiteIds, isValidSharepointSiteId id = true
  lists : ∀ id ∈ targets .sharePointListIds, IsCanonicalGuid id
  site : features .sharePointDriveMetadataEnabled = true →
    ∃ siteId, targets .sharePointSiteIds = [siteId]
  sharepoint : features .sharePointDriveMetadataEnabled = false →
    targets .sharePointSiteIds = [] ∧ targets .sharePointListIds = [] ∧
      targets .sharePointDriveIds = []
  todo : features .todoEnabled = true ∨ targets .toDoTaskListIds = []
  planner : features .plannerEnabled = true ∨ targets .plannerPlanIds = []
  calendar : features .calendarEnabled = true ∨
    targets .calendarIds = [] ∧ targets .freebusySubjects = []
  mail : targets .mailFolderIds = [] ∨ features .mailMetadataEnabled = true

/-- A policy that the host accepts. -/
structure OfficeParsed (value : Value) (expectedIssuer expectedWorkspaceId : Str)
    (office : OfficeV2Profile) : Prop where
  tenant : IsCanonicalGuid office.tenantId
  workspace : IsCanonicalGuid office.workspaceId
  expectedWorkspace : hostUuid expectedWorkspaceId = some office.workspaceId
  issuer : ∃ issuerText, expectedIssuer = tenantIssuer issuerText ∧
    hostUuid issuerText = some office.tenantId
  parsed : ∀ name, TargetsParsed name (rawTargets value name) (office.targets name)
  checked : TargetsChecked office.enabledFeatures office.targets

theorem hostUuid_canonical {s id : Str} (h : hostUuid s = some id) : IsCanonicalGuid id := by
  obtain ⟨found, hFound, rfl⟩ := Option.map_eq_some_iff.mp h
  rw [← (uuidText_canonical hFound).2]
  exact uuidText_canonical hFound

theorem hostUuid_of_canonical {s : Str} (h : IsCanonicalGuid s) : hostUuid s = some s := by
  rw [hostUuid, uuidText_of_canonical h, Option.map_some, ← h.2]

theorem checkOfficeTargets_eq_ok {features : OfficeFeature → Bool}
    {targets : OfficeTarget → List Str} {u : Unit} (h : checkOfficeTargets features targets = .ok u) :
    TargetsChecked features targets := by
  simp only [checkOfficeTargets, except_bind_eq_ok, ensure_eq_ok, exists_const, Bool.or_eq_true,
    Bool.not_eq_true', Bool.and_eq_true, List.isEmpty_iff, List.all_eq_true, decide_eq_true_eq,
    isLowerGuid_eq_true, List.length_eq_one_iff, and_assoc] at h
  obtain ⟨hPlans, hSites, hLists, hSite, hSharepoint, hTodo, hPlanner, hCalendar, hMail⟩ := h
  refine ⟨hPlans, hSites, hLists, fun hEnabled => ?_, fun hDisabled => ?_, hTodo, hPlanner,
    hCalendar, hMail⟩
  · exact hSite.resolve_left (by simp [hEnabled])
  · exact hSharepoint.resolve_left (by simp [hDisabled])

theorem issuerTenantId_eq_some {issuer tenantId : Str}
    (h : issuerTenantId issuer = .ok (some tenantId)) :
    ∃ issuerText, issuer = tenantIssuer issuerText ∧ hostUuid issuerText = some tenantId := by
  unfold issuerTenantId at h
  split at h
  next issuerText hText =>
    obtain ⟨found, hFound, hSame⟩ := map_eq_ok.mp h
    cases hSame
    have hLength : isTenantText issuerText = true → issuerText.length = 36 := by
      intro hShape
      rw [isTenantText, Bool.and_eq_true, decide_eq_true_eq] at hShape
      exact hShape.1
    exact ⟨issuerText, ((issuerTenant_eq_some hLength).mp hText).1, narrow_eq_ok.mp hFound⟩
  next => cases h

theorem parseMicrosoftGraphOfficeV2_parsed {value : Value} {issuer workspaceId : Str}
    {office : OfficeV2Profile} (h : parseMicrosoftGraphOfficeV2 value issuer workspaceId = .ok office) :
    OfficeParsed value issuer workspaceId office := by
  obtain ⟨d, hFields, h⟩ := except_bind_eq_ok.mp h
  obtain ⟨_, -, h⟩ := except_bind_eq_ok.mp h
  obtain ⟨tenantId, hTenant, h⟩ := except_bind_eq_ok.mp h
  obtain ⟨workspace, hWorkspace, h⟩ := except_bind_eq_ok.mp h
  obtain ⟨expected, hExpected, h⟩ := except_bind_eq_ok.mp h
  obtain ⟨issuerTenantId, hIssuer, h⟩ := except_bind_eq_ok.mp h
  obtain ⟨_, hSame, h⟩ := except_bind_eq_ok.mp h
  obtain ⟨featuresValue, -, h⟩ := except_bind_eq_ok.mp h
  obtain ⟨_, -, h⟩ := except_bind_eq_ok.mp h
  obtain ⟨targetsValue, hTargets, h⟩ := except_bind_eq_ok.mp h
  obtain ⟨parsed, hParsed, h⟩ := except_bind_eq_ok.mp h
  obtain ⟨_, hChecked, h⟩ := except_bind_eq_ok.mp h
  cases h
  obtain ⟨rfl, -⟩ := exactFields_eq_ok.mp hFields
  obtain ⟨hTargetsValue, hKeys⟩ := exactFields_eq_ok.mp hTargets
  rw [ensure_eq_ok, Bool.and_eq_true, decide_eq_true_eq, decide_eq_true_eq] at hSame
  obtain ⟨rfl, rfl⟩ := hSame
  have hTenant : ∃ s, hostUuid s = some tenantId := by
    obtain ⟨s, -, hUuid⟩ := Option.bind_eq_some_iff.mp (narrow_eq_ok.mp hTenant)
    exact ⟨s, hUuid⟩
  have hIssuerText : ∃ issuerText, issuer = tenantIssuer issuerText ∧
      hostUuid issuerText = some tenantId := issuerTenantId_eq_some hIssuer
  refine ⟨hostUuid_canonical hTenant.choose_spec, hostUuid_canonical (narrow_eq_ok.mp hExpected),
    narrow_eq_ok.mp hExpected, hIssuerText, ?_, checkOfficeTargets_eq_ok hChecked⟩
  intro name
  have hRaw : rawTargets (.dict d) name = targetsValue.get name.name := by
    change field (d.get "targets") name.name = _
    rw [hTargetsValue]
    rfl
  rw [hRaw]
  refine parseTargetEntries_lookup hParsed (Dict.lookup_of_has ?_)
  rw [Dict.keysAre, Bool.and_eq_true, List.all_eq_true, List.all_eq_true] at hKeys
  refine hKeys.2 _ (List.mem_map_of_mem (List.mem_map_of_mem ?_))
  cases name <;> decide

end Policies

section Initial

variable {value : Value} {issuer workspaceId : Str} {office : OfficeV2Profile}

/-- The targets whose shape the host does not check. -/
def opaqueTargets : List OfficeTarget :=
  [.sharePointDriveIds, .toDoTaskListIds, .calendarIds, .mailFolderIds]

theorem isFoldedSubject_of_address {subject : Str} (h : isAddress subject = true) :
    IsFoldedSubject (casefold subject) := by
  have hFolded := isAddress_casefold h
  obtain ⟨mailbox, domain, hSplit, hMailbox, hDomain, -⟩ := isAddress_iff.mp hFolded
  have hFirst := List.length_pos_iff.mpr hMailbox
  have hSecond := List.length_pos_iff.mpr hDomain
  refine ⟨?_, hFolded, casefold_casefold subject⟩
  rw [hSplit, List.length_append, List.length_cons]
  omega

/-- The targets of a policy are target lists of their shapes. -/
theorem targetList_of_parsed {name : OfficeTarget} {good : Str → Prop}
    (h : OfficeParsed value issuer workspaceId office) (hGood : ∀ id ∈ office.targets name, good id) :
    TargetList good (office.targets name) :=
  ⟨(h.parsed name).bounded, (h.parsed name).distinct, hGood⟩

/-- A disabled SharePoint part has no targets to leave out. -/
theorem initialScope_sharepoint (h : OfficeParsed value issuer workspaceId office) :
    office.initialScope.sharepoint =
      { enabled := office.enabledFeatures .sharePointDriveMetadataEnabled
        siteId := (office.targets .sharePointSiteIds).head?
        listIds := office.targets .sharePointListIds
        driveIds := office.targets .sharePointDriveIds
        metadataRead := office.enabledFeatures .sharePointDriveMetadataEnabled } := by
  cases hEnabled : office.enabledFeatures .sharePointDriveMetadataEnabled with
  | true => simp [OfficeV2Profile.initialScope, hEnabled]
  | false =>
      obtain ⟨hSites, hLists, hDrives⟩ := h.checked.sharepoint hEnabled
      simp [OfficeV2Profile.initialScope, hEnabled, hSites, hLists, hDrives]

theorem initialSite_valid (h : OfficeParsed value issuer workspaceId office) :
    SiteValid (office.enabledFeatures .sharePointDriveMetadataEnabled)
      (office.targets .sharePointSiteIds).head? := by
  cases hEnabled : office.enabledFeatures .sharePointDriveMetadataEnabled with
  | true =>
      obtain ⟨siteId, hSite⟩ := h.checked.site hEnabled
      have hShape := h.checked.sites siteId (by simp [hSite])
      exact ⟨.inr (by simpa [hSite] using hShape), .inl rfl⟩
  | false =>
      rw [(h.checked.sharepoint hEnabled).1]
      exact ⟨.inl rfl, .inr rfl⟩

/-- The first scope of a policy is valid when the unchecked targets have their shape. -/
theorem initialScope_valid (h : OfficeParsed value issuer workspaceId office)
    (hOpaque : ∀ name ∈ opaqueTargets, ∀ id ∈ office.targets name, isOpaqueResourceId id = true) :
    office.initialScope.Valid := by
  have hChecked := h.checked
  have hEither : ∀ flag : Bool, flag = false ∨ flag = true := by decide
  have hSubjects : ∀ id ∈ office.targets .freebusySubjects, IsFoldedSubject id := by
    obtain ⟨hIds, hAddresses⟩ := (h.parsed .freebusySubjects).folded rfl
    rw [hIds, List.forall_mem_map]
    exact fun subject hMem => isFoldedSubject_of_address (hAddresses subject hMem)
  have hPlanner : office.initialScope.planner.Valid :=
    ⟨targetList_of_parsed h hChecked.plans, hEither _, hChecked.planner.symm⟩
  have hSharepoint : office.initialScope.sharepoint.Valid := by
    rw [initialScope_sharepoint h]
    refine ⟨targetList_of_parsed h hChecked.lists,
      targetList_of_parsed h (hOpaque _ (by simp [opaqueTargets])), initialSite_valid h,
      hEither _, ?_⟩
    rcases hEither (office.enabledFeatures .sharePointDriveMetadataEnabled) with hOff | hOn
    · obtain ⟨-, hLists, hDrives⟩ := hChecked.sharepoint hOff
      exact .inr ⟨hLists, hDrives, hOff⟩
    · exact .inl hOn
  have hTodo : office.initialScope.todo.Valid := by
    refine ⟨targetList_of_parsed h (hOpaque _ (by simp [opaqueTargets])), hEither _, hEither _, ?_⟩
    rcases hEither (office.enabledFeatures .todoEnabled) with hOff | hOn
    · exact .inr ⟨hChecked.todo.resolve_left (by simp [hOff]), hOff, hOff⟩
    · exact .inl hOn
  have hCalendar : office.initialScope.calendar.Valid := by
    refine ⟨targetList_of_parsed h (hOpaque _ (by simp [opaqueTargets])),
      targetList_of_parsed h hSubjects, (hEither _).imp_right .inl, ?_, ?_⟩
    · right
      cases hIds : office.targets .freebusySubjects with
      | nil => exact .inl (by simp [OfficeV2Profile.initialScope, hIds])
      | cons id rest => exact .inr (by simp [OfficeV2Profile.initialScope, hIds])
    · rcases hEither (office.enabledFeatures .calendarEnabled) with hOff | hOn
      · obtain ⟨hCalendars, hNone⟩ := hChecked.calendar.resolve_left (by simp [hOff])
        refine .inr ⟨hCalendars, hNone, hOff, hOff, ?_⟩
        simp [OfficeV2Profile.initialScope, hNone]
      · exact .inl hOn
  have hMail : office.initialScope.mail.Valid := by
    have hSome : ∀ m d s : Bool, (m || d || s) = false ∨ m = true ∨ d = true ∨ s = true := by decide
    have hNone : ∀ m d s : Bool, (m || d || s) = true ∨ m = false ∧ d = false ∧ s = false := by
      decide
    refine ⟨targetList_of_parsed h (hOpaque _ (by simp [opaqueTargets])), hSome _ _ _,
      .inr hChecked.mail, ?_⟩
    refine (hNone _ _ _).imp_right fun hOff => ⟨?_, hOff⟩
    exact hChecked.mail.resolve_right fun hOn => absurd (hOff.1.symm.trans hOn) Bool.false_ne_true
  exact ⟨h.tenant, h.workspace, hPlanner, hSharepoint, hTodo, hCalendar, hMail⟩

/-- Where the first scope is accepted, the unchecked targets have their shape and the
subjects are short. -/
theorem targets_of_accepted {scope : ProfileScope} (h : OfficeParsed value issuer workspaceId office)
    (hAccepted : validateProfileScope office.initialScope.toValue = .ok scope) :
    (∀ name ∈ opaqueTargets, ∀ id ∈ office.targets name, isOpaqueResourceId id = true) ∧
      ∀ subject ∈ office.targets .freebusySubjects, subject.length ≤ 320 := by
  have hParts : ∃ (fields : Dict) (found : ProfileScopeV2),
      office.initialScope.toValue = .dict fields ∧ PartsAccepted fields found := by
    cases scope with
    | v1 scope =>
        obtain ⟨fields, hFields, hKeys, -⟩ := validateProfileScope_v1 hAccepted
        cases hFields
        cases hKeys
    | v2 scope =>
        obtain ⟨fields, hFields, hScope⟩ := validateProfileScope_v2 hAccepted
        exact ⟨fields, scope, hFields, validateV2ProfileScope_parts hScope⟩
  obtain ⟨fields, found, hFields, hParts⟩ := hParts
  cases hFields
  have hShape : ∀ {label : String} (s id : Str), opaqueResourceId label (.str s) = .ok id →
      isOpaqueResourceId s = true := by
    intro label s id hId
    obtain ⟨hSame, hOpaque⟩ := opaqueResourceId_eq_ok.mp hId
    cases hSame
    exact hOpaque
  have hDrives : ∀ id ∈ office.initialScope.sharepoint.driveIds, isOpaqueResourceId id = true :=
    forall_of_uniqueIds_texts hShape (validateSharepointV2Scope_spec hParts.sharepoint).1
  have hTaskLists : ∀ id ∈ office.targets .toDoTaskListIds, isOpaqueResourceId id = true :=
    forall_of_uniqueIds_texts hShape (validateTodoScope_spec hParts.todo).1
  have hCalendars : ∀ id ∈ office.targets .calendarIds, isOpaqueResourceId id = true :=
    forall_of_uniqueIds_texts hShape (validateCalendarScope_spec hParts.calendar).1
  have hFolders : ∀ id ∈ office.targets .mailFolderIds, isOpaqueResourceId id = true :=
    forall_of_uniqueIds_texts hShape (validateMailScope_spec hParts.mail).1
  have hSubjects : ∀ subject ∈ office.targets .freebusySubjects, subject.length ≤ 320 := by
    refine forall_of_uniqueIds_texts ?_ (validateCalendarScope_spec hParts.calendar).2.1
    intro s id hId
    obtain ⟨_, hSame, hSubject, -⟩ := validateSubject_eq_ok.mp hId
    cases hSame
    simp only [isSubject, Bool.and_eq_true, decide_eq_true_eq] at hSubject
    exact hSubject.1.1.2
  rw [initialScope_sharepoint h] at hDrives
  refine ⟨?_, hSubjects⟩
  intro name hMem
  simp only [opaqueTargets, List.mem_cons, List.not_mem_nil, or_false] at hMem
  rcases hMem with rfl | rfl | rfl | rfl
  · exact hDrives
  · exact hTaskLists
  · exact hCalendars
  · exact hFolders

/-- The first scope of a policy is within it. -/
theorem initialScope_within (h : OfficeParsed value issuer workspaceId office) :
    WithinPolicy office office.initialScope := by
  have hSharepoint := initialScope_sharepoint h
  refine ⟨id, id, id, id, id, id, id, hostSubset_self _, fun hEnabled => ?_, fun _ => ?_, fun _ => ?_,
    fun _ => hostSubset_self _, fun _ => hostSubset_self _, fun _ => hostSubset_self _,
    hostSubset_self _⟩
  · obtain ⟨siteId, hSite⟩ := h.checked.site hEnabled
    exact ⟨siteId, by simp [hSite], by simp [hSharepoint, hSite]⟩
  · rw [hSharepoint]
    exact hostSubset_self _
  · rw [hSharepoint]
    exact hostSubset_self _

end Initial

section Linking

/-- What a host policy needs to be linked, beyond what its parser asks for. -/
structure Linkable (value : Value) (expectedIssuer expectedWorkspaceId : Str) : Prop where
  issuer : ∃ tenantId, IsCanonicalGuid tenantId ∧ expectedIssuer = tenantIssuer tenantId
  workspace : IsCanonicalGuid expectedWorkspaceId
  resources : ∀ name ∈ opaqueTargets, ∀ id ∈ textsOf (rawTargets value name),
    isOpaqueResourceId id = true
  subjects : ∀ subject ∈ textsOf (rawTargets value .freebusySubjects),
    (casefold subject).length ≤ 320

/-- The binding of a policy to its owner. -/
def actorOwned (issuer organizationId workspaceId : Str) (office : OfficeV2Profile) :
    AuthorizationProviderProfile where
  provider := text "microsoft_graph"
  accessMode := text "actor_owned"
  expectedIssuer := issuer
  organizationId := organizationId
  workspaceId := workspaceId
  microsoftGraphOfficeV2 := some office

variable {value : Value} {issuer organizationId workspaceId : Str} {office : OfficeV2Profile}
  {principal : MicrosoftPrincipal}

theorem tenantIssuer_inj {first second : Str} (h : tenantIssuer first = tenantIssuer second) :
    first = second :=
  List.append_cancel_left (List.append_cancel_right h)

/-- The owner is bound to its policy exactly when the texts of the binding are canonical. -/
theorem bound_iff (h : OfficeParsed value issuer workspaceId office)
    (hIssuer : principal.issuer = issuer) (hOrganization : principal.organizationId = organizationId)
    (hWorkspace : principal.workspaceId = workspaceId) (hSubject : IsCanonicalGuid principal.subject) :
    Bound (actorOwned issuer organizationId workspaceId office) office principal ↔
      (∃ tenantId, IsCanonicalGuid tenantId ∧ issuer = tenantIssuer tenantId) ∧
        IsCanonicalGuid workspaceId := by
  constructor
  · intro hBound
    refine ⟨⟨office.tenantId, hBound.tenant, hIssuer.symm.trans hBound.issuer⟩, ?_⟩
    rw [← hWorkspace, hBound.workspace]
    exact h.workspace
  · rintro ⟨⟨tenantId, hTenant, hSame⟩, hCanonical⟩
    obtain ⟨issuerText, hText, hUuid⟩ := h.issuer
    obtain rfl : tenantId = issuerText := tenantIssuer_inj (hSame.symm.trans hText)
    rw [hostUuid_of_canonical hTenant, Option.some.injEq] at hUuid
    have hExpected := h.expectedWorkspace
    rw [hostUuid_of_canonical hCanonical, Option.some.injEq] at hExpected
    exact
      { issuer := by rw [hIssuer, hSame, hUuid]
        tenant := h.tenant
        subject := hSubject
        workspace := hWorkspace.trans hExpected
        expectedIssuer := hIssuer.symm
        organization := hOrganization.symm
        bindingWorkspace := hWorkspace.symm }

theorem microsoftGraphOfficeV2Scope_eq_ok {scope : ProfileScope}
    (h : OfficeParsed value issuer workspaceId office) :
    microsoftGraphOfficeV2Scope (actorOwned issuer organizationId workspaceId office) principal =
        .ok scope ↔
      Bound (actorOwned issuer organizationId workspaceId office) office principal ∧
        validateProfileScope office.initialScope.toValue = .ok scope := by
  have hSite : (office.enabledFeatures .sharePointDriveMetadataEnabled &&
      (office.targets .sharePointSiteIds).isEmpty) = false := by
    cases hEnabled : office.enabledFeatures .sharePointDriveMetadataEnabled with
    | false => rfl
    | true =>
        obtain ⟨siteId, hSite⟩ := h.checked.site hEnabled
        rw [hSite]
        rfl
  change (permit true _ >>= fun _ => _) = _ ↔ _
  simp only [except_bind_eq_ok, permit_eq_ok, requireBinding_eq_ok, exists_const, hSite,
    Bool.false_eq_true, if_false, checked_eq_ok, true_and]

/-- A policy that the host accepts is linked, and its scope accepted unchanged, exactly
when it is linkable. -/
theorem office_policy_linked_iff
    (h : parseMicrosoftGraphOfficeV2 value issuer workspaceId = .ok office)
    (hIssuer : principal.issuer = issuer) (hOrganization : principal.organizationId = organizationId)
    (hWorkspace : principal.workspaceId = workspaceId) (hSubject : IsCanonicalGuid principal.subject) :
    (∃ scope : ProfileScopeV2,
        microsoftGraphOfficeV2Scope (actorOwned issuer organizationId workspaceId office) principal =
          .ok (.v2 scope) ∧
        validateMicrosoftGraphOfficeV2Scope (actorOwned issuer organizationId workspaceId office)
          scope.toValue principal = .ok scope) ↔
      Linkable value issuer workspaceId := by
  have hParsed := parseMicrosoftGraphOfficeV2_parsed h
  have hBound := bound_iff hParsed hIssuer hOrganization hWorkspace hSubject
  have hResources : (∀ name ∈ opaqueTargets, ∀ id ∈ office.targets name,
        isOpaqueResourceId id = true) ↔
      ∀ name ∈ opaqueTargets, ∀ id ∈ textsOf (rawTargets value name),
        isOpaqueResourceId id = true := by
    refine forall₂_congr fun name hMem => ?_
    rw [(hParsed.parsed name).copied]
    rintro rfl
    exact absurd hMem (by decide)
  have hSubjects : (∀ id ∈ office.targets .freebusySubjects, id.length ≤ 320) ↔
      ∀ subject ∈ textsOf (rawTargets value .freebusySubjects), (casefold subject).length ≤ 320 := by
    rw [((hParsed.parsed .freebusySubjects).folded rfl).1, List.forall_mem_map]
  constructor
  · rintro ⟨scope, hBuilt, -⟩
    obtain ⟨hActor, hAccepted⟩ := (microsoftGraphOfficeV2Scope_eq_ok hParsed).mp hBuilt
    obtain ⟨hTexts, hCanonical⟩ := hBound.mp hActor
    obtain ⟨hOpaque, hShort⟩ := targets_of_accepted hParsed hAccepted
    exact ⟨hTexts, hCanonical, hResources.mp hOpaque, hSubjects.mp hShort⟩
  · intro hLinkable
    have hActor := hBound.mpr ⟨hLinkable.issuer, hLinkable.workspace⟩
    have hValid := initialScope_valid hParsed (hResources.mpr hLinkable.resources)
    have hAccepted := (validateV2ProfileScope_toValue hValid).mpr
      (hSubjects.mpr hLinkable.subjects)
    refine ⟨office.initialScope, ?_, ?_⟩
    · exact (microsoftGraphOfficeV2Scope_eq_ok hParsed).mpr ⟨hActor, hAccepted⟩
    · refine (validateMicrosoftGraphOfficeV2Scope_eq_ok rfl).mpr ?_
      exact ⟨rfl, hActor, hAccepted, rfl, rfl, initialScope_within hParsed⟩

/-- A policy of the calendar alone, with one calendar. -/
def calendarPolicy (calendarId : Str) : Value :=
  .dict [("schemaVersion", .int 2),
    ("tenantId", .str (text "11111111-2222-3333-4444-555555555555")),
    ("workspaceId", .str (text "AAAAAAAA-bbbb-cccc-dddd-eeeeeeeeeeee")),
    ("enabledFeatures", .dict [("plannerEnabled", .bool false), ("todoEnabled", .bool false),
      ("calendarEnabled", .bool true), ("mailMetadataEnabled", .bool false),
      ("mailDraftsEnabled", .bool false), ("mailSendEnabled", .bool false),
      ("sharePointDriveMetadataEnabled", .bool false)]),
    ("targets", .dict [("plannerPlanIds", .list []), ("sharePointSiteIds", .list []),
      ("sharePointListIds", .list []), ("sharePointDriveIds", .list []),
      ("toDoTaskListIds", .list []), ("calendarIds", .list [.str calendarId]),
      ("mailFolderIds", .list []), ("freebusySubjects", .list [.str (text "Ada@example.org")])])]

/-- The owner of the policy. -/
def calendarOwner : MicrosoftPrincipal where
  issuer := tenantIssuer (text "11111111-2222-3333-4444-555555555555")
  subject := text "99999999-8888-7777-6666-555555555555"
  organizationId := text "org"
  workspaceId := text "aaaaaaaa-bbbb-cccc-dddd-eeeeeeeeeeee"

theorem calendarOwner_subject : IsCanonicalGuid calendarOwner.subject := by
  unfold IsCanonicalGuid
  decide

theorem office_policy_linked_iff_sample :
    ∃ office, parseMicrosoftGraphOfficeV2 (calendarPolicy (text "AAMkAGI2=")) calendarOwner.issuer
        calendarOwner.workspaceId = .ok office ∧
      ∃ scope : ProfileScopeV2,
        microsoftGraphOfficeV2Scope (actorOwned calendarOwner.issuer (text "org")
          calendarOwner.workspaceId office) calendarOwner = .ok (.v2 scope) ∧
        validateMicrosoftGraphOfficeV2Scope (actorOwned calendarOwner.issuer (text "org")
          calendarOwner.workspaceId office) scope.toValue calendarOwner = .ok scope := by
  obtain ⟨office, h⟩ : ∃ office, parseMicrosoftGraphOfficeV2 (calendarPolicy (text "AAMkAGI2="))
    calendarOwner.issuer calendarOwner.workspaceId = .ok office := ⟨_, rfl⟩
  have hTenant : IsCanonicalGuid (text "11111111-2222-3333-4444-555555555555") := by
    unfold IsCanonicalGuid
    decide
  have hWorkspace : IsCanonicalGuid calendarOwner.workspaceId := by
    unfold IsCanonicalGuid
    decide
  refine ⟨office, h, (office_policy_linked_iff h rfl rfl rfl calendarOwner_subject).mpr ?_⟩
  exact ⟨⟨_, hTenant, rfl⟩, hWorkspace, by decide, by decide⟩

/-- The host accepts a calendar name with a blank in it, and no scope can hold it. -/
theorem blank_calendar_unlinkable :
    ¬ ∀ (value : Value) (issuer organizationId workspaceId : Str) (office : OfficeV2Profile)
        (principal : MicrosoftPrincipal),
      parseMicrosoftGraphOfficeV2 value issuer workspaceId = .ok office →
      principal.issuer = issuer → principal.organizationId = organizationId →
      principal.workspaceId = workspaceId → IsCanonicalGuid principal.subject →
      ∃ scope : ProfileScopeV2,
        microsoftGraphOfficeV2Scope (actorOwned issuer organizationId workspaceId office) principal =
          .ok (.v2 scope) ∧
        validateMicrosoftGraphOfficeV2Scope (actorOwned issuer organizationId workspaceId office)
          scope.toValue principal = .ok scope := by
  intro hClaim
  obtain ⟨office, h⟩ : ∃ office, parseMicrosoftGraphOfficeV2 (calendarPolicy (text "Team calendar"))
    calendarOwner.issuer calendarOwner.workspaceId = .ok office := ⟨_, rfl⟩
  obtain ⟨scope, hBuilt, -⟩ :=
    hClaim _ _ (text "org") _ office calendarOwner h rfl rfl rfl calendarOwner_subject
  have hParsed := parseMicrosoftGraphOfficeV2_parsed h
  obtain ⟨-, hAccepted⟩ := (microsoftGraphOfficeV2Scope_eq_ok hParsed).mp hBuilt
  have hOpaque := (targets_of_accepted hParsed hAccepted).1 .calendarIds (by simp [opaqueTargets])
  rw [(hParsed.parsed .calendarIds).copied (by decide)] at hOpaque
  exact absurd (hOpaque (text "Team calendar") (by decide)) (by decide)

end Linking

end CyreneExchange.Integrations.Graph
