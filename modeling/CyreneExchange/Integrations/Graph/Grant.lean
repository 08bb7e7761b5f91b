import CyreneExchange.Integrations.Graph.Selection

/-! A selection never widens a grant: whatever is sent keeps every permission of the
stored scope, names targets that were found in the same call, and stays inside the
allowlists of the host. -/
namespace CyreneExchange.Integrations.Graph
open CyreneExchange.General CyreneExchange.Gateway

section Discovered

open General.Dialogue

variable {services : Services} {office : OfficeV2Profile} {profile : Dict} {patch : Patch}
  {stored : ProfileScopeV2} {resourceType : ResourceType} {order : List ResourceType}
  {history : List SetupEvent} {ids : List Str} {u : Unit}

theorem isPageOf_isRead {event : SetupEvent} (h : IsPageOf resourceType event) : IsRead event := by
  cases event with
  | updateSent update returned => exact h
  | _ => trivial

theorem checkDiscoveredIds_emits :
    Emits (IsPageOf resourceType) (checkDiscoveredIds services office profile patch resourceType) := by
  unfold checkDiscoveredIds
  dsimp only
  split
  · exact emits_pure ()
  · exact .bind discoverPages_emits fun discovered => emits_lift _

theorem checkDiscovered_reads : Emits IsRead (checkDiscovered services office profile patch order) := by
  induction order with
  | nil => exact emits_pure ()
  | cons resourceType rest ih =>
      exact .bind (checkDiscoveredIds_emits.imp fun _ => isPageOf_isRead) fun _ => ih

/-- What the patch selects of a resource type was found, and is let through. -/
theorem checkDiscoveredIds_found (hStored : storedScope profile = .ok (.v2 stored))
    (hPatch : patch.lookup resourceType.target = some ids)
    (h : (checkDiscoveredIds services office profile patch resourceType history).result = .ok u) :
    ∀ id ∈ ids, Found stored
      (checkDiscoveredIds services office profile patch resourceType history).events
        resourceType id ∧ Admits office resourceType.target id := by
  unfold checkDiscoveredIds at h ⊢
  rw [hPatch, Option.getD_some] at h ⊢
  split at h
  next hEmpty =>
    rw [List.isEmpty_iff.mp hEmpty]
    exact List.forall_mem_nil _
  next hSome =>
    rw [if_neg hSome]
    obtain ⟨discovered, hDiscovered, h⟩ := result_bind_eq_ok.mp h
    have hAll := require_eq_ok.mp h
    rw [List.all_eq_true] at hAll
    intro id hMem
    have hFound := (discoverAllIds_ids hStored hDiscovered).mp
      (List.contains_iff_mem.mp (hAll id hMem))
    rw [events_bind_of_ok hDiscovered]
    exact ⟨found_append.mpr (.inl hFound.1), hFound.2⟩

theorem checkDiscovered_found (hStored : storedScope profile = .ok (.v2 stored))
    (h : (checkDiscovered services office profile patch order history).result = .ok u) :
    ∀ resourceType ∈ order, ∀ ids, patch.lookup resourceType.target = some ids → ∀ id ∈ ids,
      Found stored (checkDiscovered services office profile patch order history).events
        resourceType id ∧ Admits office resourceType.target id := by
  induction order generalizing history with
  | nil => exact List.forall_mem_nil _
  | cons first rest ih =>
      rw [checkDiscovered] at h ⊢
      obtain ⟨_, hFirst, hRest⟩ := result_bind_eq_ok.mp h
      rw [events_bind_of_ok hFirst]
      refine List.forall_mem_cons.mpr ⟨fun ids hPatch id hMem => ?_, ?_⟩
      · obtain ⟨hFound, hAdmits⟩ := checkDiscoveredIds_found hStored hPatch hFirst id hMem
        exact ⟨found_append.mpr (.inl hFound), hAdmits⟩
      · intro other hOther ids hPatch id hMem
        obtain ⟨hFound, hAdmits⟩ := ih hRest other hOther ids hPatch id hMem
        exact ⟨found_append.mpr (.inr hFound), hAdmits⟩

theorem mem_discoveryOrder (resourceType : ResourceType) : resourceType ∈ discoveryOrder := by
  cases resourceType <;> decide

end Discovered

section Merged

variable {host : OfficeHost} {office : OfficeV2Profile} {principal : MicrosoftPrincipal}
  {stored : ProfileScopeV2} {patch : Patch} {selected : OfficeTarget → List Str}
  {name : OfficeTarget} {ids : List Str}

theorem mergeTargets_of_some (h : patch.lookup name = some ids) :
    mergeTargets stored patch name = ids := by
  rw [mergeTargets, h, Option.getD_some]

theorem mergeTargets_of_none (h : patch.lookup name = none) :
    mergeTargets stored patch name = selectedTargetIds stored name := by
  rw [mergeTargets, h, Option.getD_none]

theorem selectedTargetIds_withTargets (hName : name ≠ .sharePointSiteIds) :
    selectedTargetIds (stored.withTargets selected) name = selected name := by
  cases name <;> first | rfl | exact absurd rfl hName

theorem permissions_withTargets :
    (ProfileScope.v2 (stored.withTargets selected)).permissions =
      (ProfileScope.v2 stored).permissions := rfl

theorem hostSubset_of_admits (h : ∀ id ∈ ids, Admits office name id) :
    HostSubset ids (office.targets name) := by
  by_cases hEmpty : office.targets name = []
  · exact .inl hEmpty
  · exact .inr fun id hMem => (h id hMem).resolve_right fun hNone => hEmpty hNone.1

theorem withinAllowlists_eq_true : withinAllowlists office selected = true ↔
    (∀ name, name = .sharePointListIds ∨ name = .freebusySubjects → selected name = [] ∨
      office.targets name ≠ [] ∧ ∀ id ∈ selected name, id ∈ office.targets name) ∧
    (∀ name, name = .plannerPlanIds ∨ name = .sharePointDriveIds ∨ name = .toDoTaskListIds ∨
      name = .calendarIds → HostSubset (selected name) (office.targets name)) := by
  simp only [withinAllowlists, isListed, isAdmitted, HostSubset, List.all_cons, List.all_nil,
    Bool.and_true, Bool.and_eq_true, Bool.or_eq_true, List.isEmpty_iff, List.all_eq_true,
    List.contains_iff_mem, Bool.not_eq_true', List.isEmpty_eq_false_iff, forall_eq_or_imp, forall_eq]

/-- Inside the allowlists no part of the scope leaves the policy of the host. -/
theorem withTargets_within (hWithin : WithinPolicy office stored)
    (hSelected : ∀ name, name ≠ .sharePointSiteIds → HostSubset (selected name) (office.targets name)) :
    WithinPolicy office (stored.withTargets selected) :=
  { todo := hWithin.todo
    planner := hWithin.planner
    sharepoint := hWithin.sharepoint
    calendar := hWithin.calendar
    metadata := hWithin.metadata
    drafts := hWithin.drafts
    send := hWithin.send
    site := hWithin.site
    folders := hSelected .mailFolderIds (by decide)
    lists := fun _ => hSelected .sharePointListIds (by decide)
    drives := fun _ => hSelected .sharePointDriveIds (by decide)
    taskLists := fun _ => hSelected .toDoTaskListIds (by decide)
    calendars := fun _ => hSelected .calendarIds (by decide)
    subjects := fun _ => hSelected .freebusySubjects (by decide)
    plans := hSelected .plannerPlanIds (by decide) }

/-- The merged scope is sent as it was merged, and its site is the stored one. -/
theorem newScope_eq_ok {scope : ProfileScope} : newScope stored selected = .ok scope ↔
    validateProfileScope (stored.withTargets selected).toValue = .ok scope := by
  constructor
  · intro h
    obtain ⟨found, hFound, h⟩ := except_bind_eq_ok.mp h
    obtain ⟨_, -, h⟩ := except_bind_eq_ok.mp h
    cases h
    exact mapError_eq_ok.mp hFound
  · intro h
    have hSite : scope.siteId = stored.sharepoint.siteId := by
      rw [validateProfileScope_readBack h]
      rfl
    refine except_bind_eq_ok.mpr ⟨scope, mapError_eq_ok.mpr h, ?_⟩
    exact except_bind_eq_ok.mpr ⟨(), require_eq_ok.mpr (decide_eq_true hSite), rfl⟩

/-- Selected subjects that are stored already are folded already. -/
theorem withTargets_folded (hStored : stored.Valid)
    (hSubjects : ∀ id ∈ selected .freebusySubjects, id ∈ stored.calendar.freebusySubjects) :
    (stored.withTargets selected).folded = stored.withTargets selected := by
  have hFolded : (selected .freebusySubjects).map casefold = selected .freebusySubjects := by
    refine (List.map_congr_left fun id hMem => ?_).trans (List.map_id' _)
    exact (hStored.calendar.freebusySubjects.all id (hSubjects id hMem)).folded
  rw [ProfileScopeV2.folded]
  change { stored.withTargets selected with
    calendar := { (stored.withTargets selected).calendar with
      freebusySubjects := (selected .freebusySubjects).map casefold } } = _
  rw [hFolded]
  rfl

end Merged

section Runs

open General.Dialogue

variable {services : Services} {host : OfficeHost} {principal : MicrosoftPrincipal}
  {profileRef : Str} {profile payload : Dict} {request : SelectionRequest} {update : ScopeUpdate}
  {stored : ProfileScopeV2} {patch : Patch} {history : List SetupEvent} {snapshot : SetupSnapshot}

theorem requireV2_eq_ok {scope : ProfileScope} :
    requireV2 scope = .ok stored ↔ scope = .v2 stored := by
  cases scope <;> simp [requireV2]

theorem asInt_eq_some {value : Value} {n : Int} : asInt value = some n ↔ value = .int n := by
  cases value <;> simp [asInt]

/-- Once the patch is read and may be applied, only discovery and the allowlists are left. -/
theorem prepareUpdate_of_stored (hPatch : targetSelection request.targets = .ok patch)
    (hStored : storedScope profile = .ok (.v2 stored)) (hKept : clearsSubjects stored patch = false) :
    prepareUpdate services host principal profileRef profile request =
      checkDiscovered services host.office profile patch discoveryOrder >>= fun _ =>
        lift (buildUpdate services host principal profileRef request.expectedRevision stored patch) := by
  rw [prepareUpdate, lift_bind_of_ok hPatch, lift_bind_of_ok hStored,
    lift_bind_of_ok (requireV2_eq_ok.mpr rfl),
    lift_bind_of_ok (require_eq_ok (u := ()).mpr (by rw [hKept]; rfl))]

/-- Once the revision is the expected one, only authorization stands before the update. -/
theorem selectTargets_of_request (hRequest : selectionRequest payload = .ok request)
    (hRevision : profile.get "credential_revision" = .int request.expectedRevision) :
    selectTargets services host principal profileRef profile payload =
      requireAuthorization services profile >>= fun _ =>
        prepareUpdate services host principal profileRef profile request >>= fun update =>
          commitUpdate services host principal update := by
  have hCurrent : expectSome (asInt (profile.get "credential_revision"))
      "office_graph_revision_unavailable" = .ok request.expectedRevision :=
    expectSome_eq_ok.mpr (asInt_eq_some.mpr hRevision)
  rw [selectTargets, lift_bind_of_ok hRequest, lift_bind_of_ok hCurrent]
  simp only [if_true]

/-- An update that was prepared. -/
structure Prepared (services : Services) (host : OfficeHost) (principal : MicrosoftPrincipal)
    (profileRef : Str) (profile : Dict) (request : SelectionRequest) (history : List SetupEvent)
    (update : ScopeUpdate) (stored : ProfileScopeV2) (patch : Patch) : Prop where
  selection : targetSelection request.targets = .ok patch
  scope : storedScope profile = .ok (.v2 stored)
  kept : clearsSubjects stored patch = false
  discovered : (checkDiscovered services host.office profile patch discoveryOrder history).result =
    .ok ()
  built : buildUpdate services host principal profileRef request.expectedRevision stored patch =
    .ok update

theorem prepareUpdate_eq_ok
    (h : (prepareUpdate services host principal profileRef profile request history).result =
      .ok update) :
    ∃ stored patch, Prepared services host principal profileRef profile request history update
      stored patch ∧ (prepareUpdate services host principal profileRef profile request history).events
        = (checkDiscovered services host.office profile patch discoveryOrder history).events := by
  obtain ⟨patch, hPatch, h⟩ := result_lift_bind_eq_ok.mp h
  obtain ⟨scope, hScope, h⟩ := result_lift_bind_eq_ok.mp h
  obtain ⟨stored, hStored, h⟩ := result_lift_bind_eq_ok.mp h
  rw [requireV2_eq_ok.mp hStored] at hScope
  obtain ⟨_, hRequired, h⟩ := result_lift_bind_eq_ok.mp h
  obtain ⟨_, hDiscovered, hBuilt⟩ := result_bind_eq_ok.mp h
  have hKept : clearsSubjects stored patch = false := by simpa [require_eq_ok] using hRequired
  refine ⟨stored, patch, ⟨hPatch, hScope, hKept, hDiscovered, hBuilt⟩, ?_⟩
  rw [prepareUpdate_of_stored hPatch hScope hKept, events_bind_of_ok hDiscovered]
  exact List.append_nil _

/-- What an update carries that was built. -/
theorem buildUpdate_eq_ok {expectedRevision : Int}
    (h : buildUpdate services host principal profileRef expectedRevision stored patch = .ok update) :
    withinAllowlists host.office (mergeTargets stored patch) = true ∧
      validateProfileScope (stored.withTargets (mergeTargets stored patch)).toValue =
        .ok update.targetScope ∧
      update.profileRef = profileRef ∧ update.expectedCredentialRevision = expectedRevision := by
  obtain ⟨_, hWithin, h⟩ := except_bind_eq_ok.mp h
  obtain ⟨targetScope, hScope, h⟩ := except_bind_eq_ok.mp h
  obtain ⟨digest, -, h⟩ := except_bind_eq_ok.mp h
  cases h
  exact ⟨require_eq_ok.mp hWithin, newScope_eq_ok.mp hScope, rfl, rfl⟩

theorem prepareUpdate_reads :
    Emits IsRead (prepareUpdate services host principal profileRef profile request) := by
  refine .bind (emits_lift _) fun patch => .bind (emits_lift _) fun scope => ?_
  refine .bind (emits_lift _) fun stored => .bind (emits_lift _) fun _ => ?_
  exact .bind checkDiscovered_reads fun _ => emits_lift _

theorem readBack_reads {returned : Bool} :
    Emits IsRead (readBack services host principal update returned) := by
  cases returned with
  | true => exact .bind readProfile_reads fun current => emits_lift _
  | false => exact .bind readProfile_reads.outcome fun current => emits_lift _

/-- A commit sends its own update and reads. -/
theorem commitUpdate_emits :
    Emits (fun event => IsRead event ∨ ∃ returned, event = .updateSent update returned)
      (commitUpdate services host principal update) := by
  refine .bind (emits_ask (fun returned => .inr ⟨returned, rfl⟩) _) fun returned => ?_
  refine .bind (readBack_reads.imp fun _ => .inl) fun current => ?_
  exact profileSnapshot_reads.imp fun _ => .inl

/-- An update is sent only by a run that was authorized and prepared it. -/
theorem selectTargets_sent {returned : Bool}
    (h : SetupEvent.updateSent update returned ∈
      (selectTargets services host principal profileRef profile payload history).events) :
    ∃ request before, selectionRequest payload = .ok request ∧
      (prepareUpdate services host principal profileRef profile request before).result = .ok update ∧
      ∀ event ∈ (prepareUpdate services host principal profileRef profile request before).events,
        event ∈ (selectTargets services host principal profileRef profile payload history).events := by
  obtain ⟨request, hRequest, hRest⟩ := mem_events_lift_bind.mp h
  obtain ⟨revision, hRevision, hRest⟩ := mem_events_lift_bind.mp hRest
  rcases mem_events_bind.mp hRest with hMem | ⟨_, hAuthorized, hRest⟩
  · obtain ⟨now, hClock⟩ := requireAuthorization_emits history _ hMem
    cases hClock
  split at hRest
  next hSame =>
    rw [hSame] at hRevision
    have hCurrent := asInt_eq_some.mp (expectSome_eq_ok.mp hRevision)
    rcases mem_events_bind.mp hRest with hMem | ⟨prepared, hPrepared, hSent⟩
    · exact (prepareUpdate_reads _ _ hMem).elim
    rcases commitUpdate_emits _ _ hSent with hRead | ⟨_, hSame⟩
    · exact hRead.elim
    cases hSame
    refine ⟨request, _, hRequest, hPrepared, fun event hMem => ?_⟩
    rw [selectTargets_of_request hRequest hCurrent, events_bind_of_ok hAuthorized,
      events_bind_of_ok hPrepared]
    exact List.mem_append_right _ (List.mem_append_left _ hMem)
  next => exact (profileSnapshot_reads _ _ hRest).elim

theorem requireUpdated_eq_ok {found : Option Dict} {current : Dict}
    (h : requireUpdated update found = .ok current) :
    found = some current ∧ sameTargetScope (current.get "target_scope") update.targetScope = true ∧
      equalsInt (current.get "credential_revision") (update.expectedCredentialRevision + 1) = true := by
  cases found with
  | none => cases h
  | some row =>
      rw [requireUpdated] at h
      split at h
      · cases h
      next hRevision =>
        split at h
        · cases h
        next hScope =>
          cases h
          exact ⟨rfl, by simpa using hScope, by simpa using hRevision⟩

theorem reconcileUpdate_eq_ok {found : Except SetupFailure (Option Dict)} {current : Dict}
    (h : reconcileUpdate update found = .ok current) :
    found = .ok (some current) ∧
      sameTargetScope (current.get "target_scope") update.targetScope = true ∧
      equalsInt (current.get "credential_revision") (update.expectedCredentialRevision + 1) = true := by
  unfold reconcileUpdate at h
  split at h
  next row =>
    split at h
    next hShown =>
      cases h
      rw [Bool.and_eq_true] at hShown
      exact ⟨rfl, hShown⟩
    next => cases h
  next => cases h

/-- A fresh read shows this row, with the update in it. -/
theorem readBack_eq_ok {returned : Bool} {current : Dict}
    (h : (readBack services host principal update returned history).result = .ok current) :
    ∃ response, (readBack services host principal update returned history).events =
        [.profilesRead (some response)] ∧
      selectRow host principal update.profileRef response = .ok (some current) ∧
      sameTargetScope (current.get "target_scope") update.targetScope = true ∧
      equalsInt (current.get "credential_revision") (update.expectedCredentialRevision + 1) = true := by
  cases returned with
  | true =>
      obtain ⟨found, hFound, hUpdated⟩ := result_bind_eq_ok.mp h
      obtain ⟨rfl, hShown⟩ := requireUpdated_eq_ok hUpdated
      obtain ⟨response, hEvents, hRow⟩ := readProfile_eq_some hFound
      refine ⟨response, ?_, hRow, hShown⟩
      exact (events_bind_of_ok hFound).trans (hEvents ▸ List.append_nil _)
  | false =>
      obtain ⟨found, hFound, hUpdated⟩ := result_bind_eq_ok.mp h
      obtain ⟨rfl, hShown⟩ := reconcileUpdate_eq_ok hUpdated
      have hRead := Except.ok.inj hFound
      obtain ⟨response, hEvents, hRow⟩ := readProfile_eq_some hRead
      refine ⟨response, ?_, hRow, hShown⟩
      exact (events_bind_of_ok hFound).trans (hEvents ▸ List.append_nil _)

theorem profileSnapshot_state {state : String}
    (h : (profileSnapshot services host profileRef profile state history).result = .ok snapshot) :
    snapshot.state = state := by
  obtain ⟨scope, hScope, h⟩ := result_bind_eq_ok.mp h
  obtain ⟨metadata, hMetadata, h⟩ := result_bind_eq_ok.mp h
  cases scope with
  | v1 scope => cases h
  | v2 scope =>
      obtain ⟨targetScope, hTarget, h⟩ := result_bind_eq_ok.mp h
      obtain ⟨credential, hCredential, h⟩ := result_bind_eq_ok.mp h
      obtain ⟨refresh, hRefresh, h⟩ := result_bind_eq_ok.mp h
      obtain ⟨mailState, hMail, h⟩ := result_bind_eq_ok.mp h
      cases h
      rfl

/-- A commit that answers has sent its update and read it back. -/
theorem commitUpdate_eq_ok
    (h : (commitUpdate services host principal update history).result = .ok snapshot) :
    ∃ returned response current after,
      (commitUpdate services host principal update history).events =
        .updateSent update returned :: .profilesRead (some response) :: after ∧
      selectRow host principal update.profileRef response = .ok (some current) ∧
      sameTargetScope (current.get "target_scope") update.targetScope = true ∧
      equalsInt (current.get "credential_revision") (update.expectedCredentialRevision + 1) = true := by
  obtain ⟨returned, hSent, h⟩ := result_bind_eq_ok.mp h
  obtain ⟨current, hCurrent, h⟩ := result_bind_eq_ok.mp h
  obtain ⟨response, hEvents, hRow⟩ := readBack_eq_ok hCurrent
  refine ⟨returned, response, current, ?after, ?events, hRow⟩
  case events =>
    rw [commitUpdate, events_bind_of_ok hSent, events_bind_of_ok hCurrent, hEvents,
      ← Except.ok.inj hSent]
    rfl

theorem sameTargetScope_eq_true {left : Value} {right : ProfileScope}
    (h : sameTargetScope left right = true) :
    ∃ scope, validateProfileScope left = .ok scope ∧ validateProfileScope right.toValue = .ok scope := by
  unfold sameTargetScope at h
  split at h
  next leftScope rightScope hLeft hRight =>
    rw [decide_eq_true_eq] at h
    exact ⟨leftScope, hLeft, h ▸ hRight⟩
  next => cases h

/-- A run answers with the conflict, or commits what it prepared. -/
theorem selectTargets_eq_ok
    (h : (selectTargets services host principal profileRef profile payload history).result =
      .ok snapshot) :
    snapshot.state = "CONFLICT" ∨ ∃ request update before reached preceding,
      selectionRequest payload = .ok request ∧
      (prepareUpdate services host principal profileRef profile request before).result = .ok update ∧
      (commitUpdate services host principal update reached).result = .ok snapshot ∧
      (selectTargets services host principal profileRef profile payload history).events =
        preceding ++ (commitUpdate services host principal update reached).events := by
  obtain ⟨request, hRequest, hRest⟩ := result_lift_bind_eq_ok.mp h
  obtain ⟨revision, hRevision, hRest⟩ := result_lift_bind_eq_ok.mp hRest
  obtain ⟨_, hAuthorized, hRest⟩ := result_bind_eq_ok.mp hRest
  split at hRest
  next hSame =>
    rw [hSame] at hRevision
    have hCurrent := asInt_eq_some.mp (expectSome_eq_ok.mp hRevision)
    obtain ⟨update, hPrepared, hCommitted⟩ := result_bind_eq_ok.mp hRest
    refine .inr ⟨request, update, _, _, ?preceding, hRequest, hPrepared, hCommitted, ?events⟩
    case events =>
      rw [selectTargets_of_request hRequest hCurrent, events_bind_of_ok hAuthorized,
        events_bind_of_ok hPrepared, ← List.append_assoc]
  next => exact .inl (profileSnapshot_state hRest)

end Runs

section Grants

variable {host : OfficeHost} {office : OfficeV2Profile} {principal : MicrosoftPrincipal}
  {profileRef : Str} {profile payload : Dict} {stored : ProfileScopeV2} {patch : Patch}
  {name : OfficeTarget}

/-- What is stored and accepted is inside every allowlist that is not empty. -/
theorem stored_hostSubset (hValid : stored.Valid) (hWithin : WithinPolicy office stored)
    (name : OfficeTarget) : HostSubset (selectedTargetIds stored name) (office.targets name) := by
  have hDisabled : ∀ ids : List Str, ids = [] → HostSubset ids (office.targets name) := by
    rintro _ rfl
    exact hostSubset_nil _
  cases name with
  | plannerPlanIds => exact hWithin.plans
  | sharePointSiteIds => exact hostSubset_nil _
  | sharePointListIds =>
      exact hValid.sharepoint.disabled.elim hWithin.lists fun hNone => hDisabled _ hNone.1
  | sharePointDriveIds =>
      exact hValid.sharepoint.disabled.elim hWithin.drives fun hNone => hDisabled _ hNone.2.1
  | toDoTaskListIds =>
      exact hValid.todo.disabled.elim hWithin.taskLists fun hNone => hDisabled _ hNone.1
  | calendarIds =>
      exact hValid.calendar.disabled.elim hWithin.calendars fun hNone => hDisabled _ hNone.1
  | mailFolderIds => exact hWithin.folders
  | freebusySubjects =>
      exact hValid.calendar.disabled.elim hWithin.subjects fun hNone => hDisabled _ hNone.2.1

theorem mergeTargets_hostSubset (hWithin : WithinPolicy office stored)
    (hAllowed : withinAllowlists office (mergeTargets stored patch) = true)
    (hFolders : ∀ ids, patch.lookup .mailFolderIds = some ids →
      HostSubset ids (office.targets .mailFolderIds))
    (hName : name ≠ .sharePointSiteIds) :
    HostSubset (mergeTargets stored patch name) (office.targets name) := by
  obtain ⟨hListed, hAdmitted⟩ := withinAllowlists_eq_true.mp hAllowed
  have hListed : name = .sharePointListIds ∨ name = .freebusySubjects →
      HostSubset (mergeTargets stored patch name) (office.targets name) := by
    intro hNames
    rcases hListed name hNames with hNone | ⟨-, hAll⟩
    · rw [hNone]
      exact hostSubset_nil _
    · exact .inr hAll
  cases name with
  | sharePointSiteIds => exact absurd rfl hName
  | sharePointListIds => exact hListed (.inl rfl)
  | freebusySubjects => exact hListed (.inr rfl)
  | plannerPlanIds => exact hAdmitted _ (.inl rfl)
  | sharePointDriveIds => exact hAdmitted _ (.inr (.inl rfl))
  | toDoTaskListIds => exact hAdmitted _ (.inr (.inr (.inl rfl)))
  | calendarIds => exact hAdmitted _ (.inr (.inr (.inr rfl)))
  | mailFolderIds =>
      cases hPatch : patch.lookup .mailFolderIds with
      | none =>
          rw [mergeTargets_of_none hPatch]
          exact hWithin.folders
      | some ids =>
          rw [mergeTargets_of_some hPatch]
          exact hFolders ids hPatch

theorem requiredOauthScopes_v2 {value : Value} {scope : ProfileScopeV2}
    (h : validateProfileScope value = .ok (.v2 scope))
    (hAgain : validateProfileScope scope.toValue = .ok (.v2 scope)) :
    requiredOauthScopes value = .ok (sortedTexts
      (sortedTexts (ProfileScope.v2 scope).permissions ++ [text "offline_access"])) := by
  have hPermissions : requiredGraphPermissions scope.toValue =
      .ok (sortedTexts (ProfileScope.v2 scope).permissions) := ok_bind hAgain
  exact (ok_bind h).trans (ok_bind hPermissions)

/-- What may be sent for a patch of a stored scope, with these exchanges so far. -/
structure GrantKept (host : OfficeHost) (principal : MicrosoftPrincipal) (profile : Dict)
    (stored : ProfileScopeV2) (patch : Patch) (events : List SetupEvent) (sent : ProfileScopeV2) :
    Prop where
  merged : sent = stored.withTargets (mergeTargets stored patch)
  oauthScopes : requiredOauthScopes sent.toValue = requiredOauthScopes (profile.get "target_scope")
  found : ∀ resourceType ids, patch.lookup (ResourceType.target resourceType) = some ids →
    ∀ id ∈ ids, Found stored events resourceType id
  allowed : ∀ name, HostSubset (selectedTargetIds sent name) (host.office.targets name)
  accepted : validateMicrosoftGraphOfficeV2Scope host.profile sent.toValue principal = .ok sent

theorem grantKept_of_prepared {services : Services} {request : SelectionRequest}
    {update : ScopeUpdate} {before : List SetupEvent}
    (hAccepted : AcceptedProfile host principal profile stored)
    (h : Prepared services host principal profileRef profile request before update stored patch) :
    ∃ sent, update.targetScope = .v2 sent ∧ GrantKept host principal profile stored patch
      (checkDiscovered services host.office profile patch discoveryOrder before).events sent := by
  have hValid : (ProfileScope.v2 stored).Valid := validateProfileScope_valid hAccepted.valid
  have hWithin := hAccepted.accepted.within
  have hFound : ∀ resourceType ids, patch.lookup (ResourceType.target resourceType) = some ids →
      ∀ id ∈ ids, Found stored
        (checkDiscovered services host.office profile patch discoveryOrder before).events
          resourceType id ∧ Admits host.office resourceType.target id :=
    fun resourceType => checkDiscovered_found h.scope h.discovered resourceType
      (mem_discoveryOrder resourceType)
  obtain ⟨hAllowed, hScope, -, -⟩ := buildUpdate_eq_ok h.built
  have hSubjects : ∀ id ∈ mergeTargets stored patch .freebusySubjects,
      id ∈ stored.calendar.freebusySubjects := by
    cases hPatch : patch.lookup .freebusySubjects with
    | none =>
        rw [mergeTargets_of_none hPatch]
        exact fun _ hMem => hMem
    | some ids =>
        rw [mergeTargets_of_some hPatch]
        exact fun id hMem => (hFound .freebusySubjects ids hPatch id hMem).1
  have hSent : update.targetScope = .v2 (stored.withTargets (mergeTargets stored patch)) := by
    rw [validateProfileScope_readBack hScope, withTargets_folded hValid hSubjects]
  rw [hSent] at hScope
  have hSubsets : ∀ name, name ≠ .sharePointSiteIds →
      HostSubset (mergeTargets stored patch name) (host.office.targets name) := by
    intro name hName
    refine mergeTargets_hostSubset hWithin hAllowed (fun ids hPatch => ?_) hName
    exact hostSubset_of_admits fun id hMem => (hFound .mailFolders ids hPatch id hMem).2
  refine ⟨_, hSent, rfl, ?_, fun resourceType ids hPatch id hMem => ?_, fun name => ?_, ?_⟩
  · rw [requiredOauthScopes_v2 hScope hScope,
      requiredOauthScopes_v2 hAccepted.valid hAccepted.accepted.valid, permissions_withTargets]
  · exact (hFound resourceType ids hPatch id hMem).1
  · by_cases hName : name = .sharePointSiteIds
    · rw [hName]
      exact hostSubset_nil _
    · rw [selectedTargetIds_withTargets hName]
      exact hSubsets name hName
  · refine (validateMicrosoftGraphOfficeV2Scope_eq_ok host.configured).mpr ?_
    have hBase := hAccepted.accepted
    exact ⟨hBase.provider, hBase.bound, hScope, hBase.tenant, hBase.workspace,
      withTargets_within hWithin hSubsets⟩

theorem found_mono {events events' : List SetupEvent} {resourceType : ResourceType} {id : Str}
    (hEvents : ∀ event ∈ events, event ∈ events') (h : Found stored events resourceType id) :
    Found stored events' resourceType id := by
  unfold Found at h ⊢
  cases hOperation : resourceType.operation with
  | none =>
      rw [hOperation] at h
      exact h
  | some operationId =>
      rw [hOperation] at h
      obtain ⟨event, hMem, hLists⟩ := h
      exact ⟨event, hEvents event hMem, hLists⟩

theorem GrantKept.mono {events events' : List SetupEvent} {sent : ProfileScopeV2}
    (h : GrantKept host principal profile stored patch events sent)
    (hEvents : ∀ event ∈ events, event ∈ events') :
    GrantKept host principal profile stored patch events' sent :=
  { h with found := fun resourceType ids hPatch id hMem =>
      found_mono hEvents (h.found resourceType ids hPatch id hMem) }

theorem selectionRequest_eq_ok {request : SelectionRequest}
    (h : selectionRequest payload = .ok request) :
    payload.get "expectedCredentialRevision" = .int request.expectedRevision ∧
      request.targets = payload.get "targets" := by
  obtain ⟨_, -, h⟩ := except_bind_eq_ok.mp h
  obtain ⟨expected, hExpected, h⟩ := except_bind_eq_ok.mp h
  cases h
  exact ⟨asInt_eq_some.mp (Option.filter_eq_some_iff.mp (expectSome_eq_ok.mp hExpected)).1, rfl⟩

theorem storedScope_accepted {found : ProfileScopeV2}
    (hAccepted : AcceptedProfile host principal profile stored)
    (h : storedScope profile = .ok (.v2 found)) : AcceptedProfile host principal profile found := by
  have hSame := (mapError_eq_ok.mp h).symm.trans hAccepted.valid
  rw [ProfileScope.v2.inj (Except.ok.inj hSame)]
  exact hAccepted

/-- Whatever is sent for a profile that was read keeps the grant, and an update is
reported only when a fresh read shows what was sent, at the next revision. -/
theorem selection_never_widens {past services : Services} {earlier history : List SetupEvent}
    (hRead : (readProfile past host principal profileRef earlier).result = .ok (some profile)) :
    (∀ update returned, SetupEvent.updateSent update returned ∈
        (selectTargets services host principal profileRef profile payload history).events →
      ∃ stored patch sent, validateProfileScope (profile.get "target_scope") = .ok (.v2 stored) ∧
        targetSelection (payload.get "targets") = .ok patch ∧ update.targetScope = .v2 sent ∧
        GrantKept host principal profile stored patch
          (selectTargets services host principal profileRef profile payload history).events sent) ∧
    ∀ snapshot, (selectTargets services host principal profileRef profile payload history).result =
        .ok snapshot → snapshot.state = "UPDATED" →
      ∃ update returned response before after current expected,
        (selectTargets services host principal profileRef profile payload history).events =
          before ++ .updateSent update returned :: .profilesRead (some response) :: after ∧
        selectRow host principal profileRef response = .ok (some current) ∧
        validateProfileScope (current.get "target_scope") = .ok update.targetScope ∧
        payload.get "expectedCredentialRevision" = .int expected ∧
        equalsInt (current.get "credential_revision") (expected + 1) = true := by
  obtain ⟨response, -, hRow⟩ := readProfile_eq_some hRead
  obtain ⟨stored, hAccepted⟩ := selectRow_accepted hRow
  constructor
  · intro update returned hSent
    obtain ⟨request, before, hRequest, hPrepared, hEvents⟩ := selectTargets_sent hSent
    obtain ⟨found, patch, hUpdate, hSame⟩ := prepareUpdate_eq_ok hPrepared
    have hFound := storedScope_accepted hAccepted hUpdate.scope
    obtain ⟨sent, hScope, hKept⟩ := grantKept_of_prepared hFound hUpdate
    refine ⟨found, patch, sent, hFound.valid, ?_, hScope, hKept.mono (hSame ▸ hEvents)⟩
    rw [← (selectionRequest_eq_ok hRequest).2]
    exact hUpdate.selection
  · intro snapshot hOk hState
    rcases selectTargets_eq_ok hOk with hConflict | ⟨request, update, before, reached, preceding,
      hRequest, hPrepared, hCommitted, hEvents⟩
    · rw [hConflict] at hState
      exact absurd hState (by decide)
    obtain ⟨found, patch, hUpdate, -⟩ := prepareUpdate_eq_ok hPrepared
    obtain ⟨sent, hScope, hKept⟩ :=
      grantKept_of_prepared (storedScope_accepted hAccepted hUpdate.scope) hUpdate
    obtain ⟨returned, response, current, after, hSent, hCurrent, hSame, hRevision⟩ :=
      commitUpdate_eq_ok hCommitted
    obtain ⟨-, -, hRef, hExpected⟩ := buildUpdate_eq_ok hUpdate.built
    rw [hRef] at hCurrent
    rw [hExpected] at hRevision
    refine ⟨update, returned, response, preceding, after, current, request.expectedRevision, ?_,
      hCurrent, ?_, (selectionRequest_eq_ok hRequest).1, hRevision⟩
    · rw [hEvents, hSent]
    · obtain ⟨scope, hShown, hAgain⟩ := sameTargetScope_eq_true hSame
      have hValid := ((validateMicrosoftGraphOfficeV2Scope_eq_ok host.configured).mp
        hKept.accepted).valid
      rw [hScope] at hAgain ⊢
      rw [hShown]
      exact hAgain.symm.trans hValid

/-- A policy for planner and calendar, with these free/busy subjects on its allowlist. -/
def plannerOffice (subjects : List Str) : OfficeV2Profile where
  tenantId := text "11111111-2222-3333-4444-555555555555"
  workspaceId := text "aaaaaaaa-bbbb-cccc-dddd-eeeeeeeeeeee"
  enabledFeatures := fun name => name = .plannerEnabled || name = .calendarEnabled
  targets := fun name => if name = .freebusySubjects then subjects else []

def plannerHost (subjects : List Str) : OfficeHost where
  office := plannerOffice subjects
  configured := rfl
  profile :=
    { provider := text "microsoft_graph"
      accessMode := text "actor_owned"
      expectedIssuer := tenantIssuer (text "11111111-2222-3333-4444-555555555555")
      organizationId := text "org"
      workspaceId := text "aaaaaaaa-bbbb-cccc-dddd-eeeeeeeeeeee"
      microsoftGraphOfficeV2 := some (plannerOffice subjects) }

def plannerOwner : MicrosoftPrincipal where
  issuer := tenantIssuer (text "11111111-2222-3333-4444-555555555555")
  subject := text "99999999-8888-7777-6666-555555555555"
  organizationId := text "org"
  workspaceId := text "aaaaaaaa-bbbb-cccc-dddd-eeeeeeeeeeee"

/-- No plan is selected yet, and the free/busy times of one person are read. -/
def plannerScope : ProfileScopeV2 where
  tenantId := text "11111111-2222-3333-4444-555555555555"
  workspaceId := text "aaaaaaaa-bbbb-cccc-dddd-eeeeeeeeeeee"
  planner := { planIds := [], tasksRead := true, tasksWrite := false }
  sharepoint :=
    { enabled := false, siteId := none, listIds := [], driveIds := [], metadataRead := false }
  todo := { enabled := false, taskListIds := [], tasksRead := false, tasksWrite := false }
  calendar :=
    { enabled := true, calendarIds := [], eventsRead := false, eventsWrite := false
      freebusyRead := true, freebusySubjects := [text "ada@example.org"] }
  mail :=
    { enabled := false, folderIds := [], metadataRead := false, draftsWrite := false
      sendEnabled := false }

/-- The row that Account Center keeps of it. -/
def plannerRow : Dict :=
  [("profile_ref", .str (text "graph")), ("provider", .str (text "microsoft_graph")),
    ("auth_mode", .str (text "delegated_oauth")), ("auth_status", .str (text "healthy")),
    ("external_subject", .str (text
      "11111111-2222-3333-4444-555555555555:99999999-8888-7777-6666-555555555555")),
    ("identity_ref", .str (text
      "11111111-2222-3333-4444-555555555555:99999999-8888-7777-6666-555555555555")),
    ("oauth_scopes", .list [.str (text "User.Read"), .str (text "Tasks.Read"),
      .str (text "Calendars.ReadBasic")]),
    ("expires_at", .int 2000000000), ("credential_revision", .int 3),
    ("target_scope", plannerScope.toValue)]

def plannerPlan : Str := text "xqQg5FS2LkCp935s-FIFm2QAFkHM"

/-- The provider lists one plan, and no update fails. -/
def plannerServices : Services where
  now := fun _ => 0
  profiles := fun _ => some (.dict [("profiles", .list [.dict plannerRow])])
  page := fun _ _ _ => .ok (.dict [("items", .list [.dict [("plan_id", .str plannerPlan)]]),
    ("complete", .bool true)])
  update := fun _ _ => true
  digest := fun _ => some (text "digest")
  isoformat := fun _ => some (text "2033-05-18T03:33:20Z")

/-- The plan is selected at the current revision. -/
def plannerPayload : Dict :=
  [("expectedCredentialRevision", .int 3),
    ("targets", .dict [("plannerPlanIds", .list [.str plannerPlan])])]

/-- The selection of the plan, under this policy. -/
def plannerRun (subjects : List Str) : Traced SetupEvent SetupFailure SetupSnapshot :=
  selectTargets plannerServices (plannerHost subjects) plannerOwner (text "graph") plannerRow
    plannerPayload []

theorem selection_never_widens_sample : ∃ update returned stored patch sent,
    SetupEvent.updateSent update returned ∈ (plannerRun [text "ada@example.org"]).events ∧
      update.targetScope = .v2 sent ∧
      GrantKept (plannerHost [text "ada@example.org"]) plannerOwner plannerRow stored patch
        (plannerRun [text "ada@example.org"]).events sent := by
  have hRead : (readProfile plannerServices (plannerHost [text "ada@example.org"]) plannerOwner
      (text "graph") []).result = .ok (some plannerRow) := rfl
  have hWrite : ∃ event ∈ (plannerRun [text "ada@example.org"]).events, ¬ IsRead event := by
    decide +kernel
  obtain ⟨event, hSent, hWrite⟩ := hWrite
  cases event with
  | updateSent update returned =>
      obtain ⟨stored, patch, sent, -, -, hScope, hKept⟩ :=
        (selection_never_widens hRead).1 update returned hSent
      exact ⟨update, returned, stored, patch, sent, hSent, hScope, hKept⟩
  | _ => exact absurd trivial hWrite

end Grants

end CyreneExchange.Integrations.Graph
