import CyreneExchange.Integrations.Graph.Grant

/-! Which selections are blocked by targets that the patch leaves alone. The merged
selection is checked by a stricter rule than the one that accepted the stored scope. -/
namespace CyreneExchange.Integrations.Graph
open CyreneExchange.General CyreneExchange.Gateway

section Discovery

open General.Dialogue

variable {services : Services} {office : OfficeV2Profile} {profile : Dict} {patch : Patch}
  {stored : ProfileScopeV2} {resourceType other : ResourceType} {order : List ResourceType}
  {history events before : List SetupEvent} {id : Str} {e : SetupFailure}

/-- Each listing has an operation of its own. -/
theorem operation_injective : Function.Injective ResourceType.operation := by
  intro first second
  cases first <;> cases second <;> decide

/-- The pages of one listing find nothing for another. -/
theorem found_of_other (hOther : resourceType ≠ other)
    (hPages : ∀ event ∈ events, IsPageOf other event)
    (h : Found stored events resourceType id) : Found stored [] resourceType id := by
  unfold Found at h ⊢
  cases hOperation : resourceType.operation with
  | none =>
      rw [hOperation] at h
      exact h
  | some operationId =>
      rw [hOperation] at h
      obtain ⟨event, hMem, hLists⟩ := h
      have hPage := hPages event hMem
      cases event with
      | pageRead readId arguments response =>
          cases response with
          | error reason => exact hLists.elim
          | ok response =>
              exact (hOther (operation_injective (hLists.1.trans hPage.symm))).elim
      | clockRead now => exact hLists.elim
      | profilesRead response => exact hLists.elim
      | updateSent update returned => exact hLists.elim

/-- Readings of the clock find nothing. -/
theorem found_of_clock (hClock : ∀ event ∈ before, ∃ now, event = .clockRead now)
    (h : Found stored (before ++ events) resourceType id) :
    Found stored events resourceType id := by
  unfold Found at h ⊢
  cases hOperation : resourceType.operation with
  | none =>
      rw [hOperation] at h
      exact h
  | some operationId =>
      rw [hOperation] at h
      obtain ⟨event, hMem, hLists⟩ := h
      rcases List.mem_append.mp hMem with hBefore | hEvents
      · obtain ⟨now, rfl⟩ := hClock event hBefore
        exact hLists.elim
      · exact ⟨event, hEvents, hLists⟩

/-- A discovery refuses an identifier of the patch that was not found or is not let through. -/
theorem checkDiscoveredIds_refused (hStored : storedScope profile = .ok (.v2 stored))
    (h : (checkDiscoveredIds services office profile patch resourceType history).result = .error e)
    (hRefusal : isTargetRefusal e = true) :
    ∃ ids, patch.lookup resourceType.target = some ids ∧ ∃ id ∈ ids, ¬ (Found stored
      (checkDiscoveredIds services office profile patch resourceType history).events
        resourceType id ∧ Admits office resourceType.target id) := by
  unfold checkDiscoveredIds at h ⊢
  cases hPatch : patch.lookup resourceType.target with
  | none =>
      rw [hPatch] at h
      cases h
  | some ids =>
      rw [hPatch, Option.getD_some] at h
      rw [Option.getD_some]
      split at h
      · cases h
      next hSome =>
        rw [if_neg hSome]
        refine ⟨ids, rfl, ?_⟩
        rcases result_bind_eq_error.mp h with hError | ⟨discovered, hDiscovered, hError⟩
        · have hOtherwise : isTargetRefusal e = false := discoverPages_fails history e hError
          rw [hRefusal] at hOtherwise
          cases hOtherwise
        · have hMissing : ids.all discovered.contains = false := by
            cases hAll : ids.all discovered.contains with
            | false => rfl
            | true =>
                rw [hAll] at hError
                cases hError
          obtain ⟨id, hMem, hAbsent⟩ := List.all_eq_false.mp hMissing
          refine ⟨id, hMem, fun hFound => hAbsent ?_⟩
          rw [events_bind_of_ok hDiscovered] at hFound
          refine List.contains_iff_mem.mpr
            ((discoverAllIds_ids hStored hDiscovered).mpr ⟨?_, hFound.2⟩)
          rcases found_append.mp hFound.1 with hFirst | hRest
          · exact hFirst
          · exact found_nil_imp hRest

theorem checkDiscovered_refused (hStored : storedScope profile = .ok (.v2 stored))
    (hOrder : order.Nodup)
    (h : (checkDiscovered services office profile patch order history).result = .error e)
    (hRefusal : isTargetRefusal e = true) :
    ∃ resourceType ∈ order, ∃ ids, patch.lookup resourceType.target = some ids ∧ ∃ id ∈ ids,
      ¬ (Found stored (checkDiscovered services office profile patch order history).events
        resourceType id ∧ Admits office resourceType.target id) := by
  induction order generalizing history with
  | nil => cases h
  | cons first rest ih =>
      obtain ⟨hFresh, hRest⟩ := List.nodup_cons.mp hOrder
      rw [checkDiscovered] at h ⊢
      rcases result_bind_eq_error.mp h with hError | ⟨_, hOk, hError⟩
      · obtain ⟨ids, hPatch, id, hMem, hMissing⟩ :=
          checkDiscoveredIds_refused hStored hError hRefusal
        refine ⟨first, List.mem_cons_self, ids, hPatch, id, hMem, ?_⟩
        rw [events_bind_of_error hError]
        exact hMissing
      · obtain ⟨later, hLater, ids, hPatch, id, hMem, hMissing⟩ := ih hRest hError
        refine ⟨later, List.mem_cons_of_mem _ hLater, ids, hPatch, id, hMem, fun hFound => ?_⟩
        refine hMissing ⟨?_, hFound.2⟩
        rw [events_bind_of_ok hOk] at hFound
        rcases found_append.mp hFound.1 with hFirst | hSecond
        · have hOther : later ≠ first := fun hSame => hFresh (hSame ▸ hLater)
          exact found_nil_imp (found_of_other hOther (checkDiscoveredIds_emits history) hFirst)
        · exact hSecond

end Discovery

section Merged

variable {services : Services} {host : OfficeHost} {office : OfficeV2Profile}
  {principal : MicrosoftPrincipal} {profileRef : Str} {profile : Dict} {stored : ProfileScopeV2}
  {patch : Patch} {expectedRevision : Int} {update : ScopeUpdate} {e : SetupFailure}

/-- What the patch leaves alone passes the check of the merged selection: a list that has
to be on an allowlist is empty, or there is an allowlist. -/
def Unblocked (office : OfficeV2Profile) (stored : ProfileScopeV2) (patch : Patch) : Prop :=
  ∀ name, name = .sharePointListIds ∨ name = .freebusySubjects → patch.lookup name = none →
    selectedTargetIds stored name = [] ∨ office.targets name ≠ []

/-- The SharePoint lists that the patch names are on the allowlist: no listing shows them. -/
def ListsAdmitted (office : OfficeV2Profile) (patch : Patch) : Prop :=
  ∀ ids, patch.lookup .sharePointListIds = some ids → ∀ id ∈ ids,
    Admits office .sharePointListIds id

/-- The merged scope is valid and has a digest. -/
def Sendable (services : Services) (stored : ProfileScopeV2) (patch : Patch) : Prop :=
  ∃ scope digest,
    validateProfileScope (stored.withTargets (mergeTargets stored patch)).toValue = .ok scope ∧
      services.digest scope.toValue = some digest

theorem listed_of_admits {name : OfficeTarget} {ids : List Str}
    (hName : name = .sharePointListIds ∨ name = .freebusySubjects)
    (h : ∀ id ∈ ids, Admits office name id) :
    ids = [] ∨ office.targets name ≠ [] ∧ ∀ id ∈ ids, id ∈ office.targets name := by
  have hMem : ∀ id ∈ ids, id ∈ office.targets name := by
    intro id hId
    refine (h id hId).resolve_right fun hEmpty => ?_
    exact hName.elim hEmpty.2.1 hEmpty.2.2
  cases ids with
  | nil => exact .inl rfl
  | cons id rest => exact .inr ⟨List.ne_nil_of_mem (hMem id List.mem_cons_self), hMem⟩

/-- When the patch itself is let through, the check of the merged selection fails only at
what the patch leaves alone. -/
theorem withinAllowlists_iff (hValid : stored.Valid) (hWithin : WithinPolicy office stored)
    (hPatch : ∀ resourceType ids, patch.lookup (ResourceType.target resourceType) = some ids →
      ∀ id ∈ ids, Admits office (ResourceType.target resourceType) id)
    (hLists : ListsAdmitted office patch) :
    withinAllowlists office (mergeTargets stored patch) = true ↔ Unblocked office stored patch := by
  rw [withinAllowlists_eq_true]
  constructor
  · rintro ⟨hListed, -⟩ name hName hNone
    have hMerged := hListed name hName
    rw [mergeTargets_of_none hNone] at hMerged
    exact hMerged.imp_right And.left
  · intro h
    have hNamed : ∀ name, name = .sharePointListIds ∨ name = .freebusySubjects →
        ∀ ids, patch.lookup name = some ids → ∀ id ∈ ids, Admits office name id := by
      rintro name (rfl | rfl)
      · exact hLists
      · exact hPatch .freebusySubjects
    have hSubset : ∀ resourceType, HostSubset
        (mergeTargets stored patch (ResourceType.target resourceType))
        (office.targets (ResourceType.target resourceType)) := by
      intro resourceType
      cases hLookup : patch.lookup (ResourceType.target resourceType) with
      | none =>
          rw [mergeTargets_of_none hLookup]
          exact stored_hostSubset hValid hWithin _
      | some ids =>
          rw [mergeTargets_of_some hLookup]
          exact hostSubset_of_admits (hPatch resourceType ids hLookup)
    refine ⟨fun name hName => ?_, ?_⟩
    · cases hLookup : patch.lookup name with
      | none =>
          rw [mergeTargets_of_none hLookup]
          refine (h name hName hLookup).imp_right fun hSome => ⟨hSome, ?_⟩
          exact (stored_hostSubset hValid hWithin name).resolve_left hSome
      | some ids =>
          rw [mergeTargets_of_some hLookup]
          exact listed_of_admits hName (hNamed name hName ids hLookup)
    · rintro name (rfl | rfl | rfl | rfl)
      · exact hSubset .plannerPlans
      · exact hSubset .sharepointDrives
      · exact hSubset .todoLists
      · exact hSubset .calendars

theorem buildUpdate_refused
    (h : withinAllowlists host.office (mergeTargets stored patch) = false) :
    buildUpdate services host principal profileRef expectedRevision stored patch =
      .error (officeError "office_graph_target_outside_host_allowlist") := by
  unfold buildUpdate
  dsimp only
  rw [h]
  rfl

/-- Behind the allowlists nothing is said about targets any more. -/
theorem buildUpdate_settles (h : withinAllowlists host.office (mergeTargets stored patch) = true) :
    Settles IsOtherFailure
      (buildUpdate services host principal profileRef expectedRevision stored patch) := by
  unfold buildUpdate
  dsimp only
  rw [h]
  refine settles_bind.mpr ⟨settles_ok (), fun _ _ => settles_bind.mpr ⟨?_, fun scope _ => ?_⟩⟩
  · refine settles_bind.mpr ⟨settles_passing _, fun scope _ => ?_⟩
    exact settles_bind.mpr ⟨settles_require (by decide), fun _ _ => settles_ok scope⟩
  · refine settles_bind.mpr ⟨?_, fun digest _ => settles_ok _⟩
    unfold scopeDigest
    split
    · exact settles_ok _
    · exact (settles_error _).mpr rfl

/-- An update is built of a selection inside the allowlists whose scope can be sent. -/
theorem exists_buildUpdate : (∃ update, buildUpdate services host principal profileRef
      expectedRevision stored patch = .ok update) ↔
    withinAllowlists host.office (mergeTargets stored patch) = true ∧
      Sendable services stored patch := by
  constructor
  · rintro ⟨update, h⟩
    obtain ⟨_, hWithin, h⟩ := except_bind_eq_ok.mp h
    obtain ⟨scope, hScope, h⟩ := except_bind_eq_ok.mp h
    obtain ⟨digest, hDigest, -⟩ := except_bind_eq_ok.mp h
    refine ⟨require_eq_ok.mp hWithin, scope, digest, newScope_eq_ok.mp hScope, ?_⟩
    unfold scopeDigest at hDigest
    split at hDigest
    next found hFound =>
      rw [hFound, Except.ok.inj hDigest]
    next => cases hDigest
  · rintro ⟨hWithin, scope, digest, hScope, hDigest⟩
    have hFound : scopeDigest services scope = .ok digest := by
      rw [scopeDigest, hDigest]
    have hNew : newScope stored (mergeTargets stored patch) = .ok scope :=
      newScope_eq_ok.mpr hScope
    unfold buildUpdate
    dsimp only
    rw [hWithin, require, if_pos rfl, except_ok_bind, hNew, except_ok_bind, hFound, except_ok_bind]
    exact ⟨_, rfl⟩

end Merged

section Runs

open General.Dialogue

variable {services : Services} {host : OfficeHost} {principal : MicrosoftPrincipal}
  {profileRef : Str} {profile payload : Dict} {request : SelectionRequest} {update : ScopeUpdate}
  {stored : ProfileScopeV2} {patch : Patch} {history : List SetupEvent}

/-- An identifier of the patch was not found, or the host does not let it through. -/
def Blames (office : OfficeV2Profile) (stored : ProfileScopeV2) (patch : Patch)
    (events : List SetupEvent) : Prop :=
  (∃ resourceType ids, patch.lookup (ResourceType.target resourceType) = some ids ∧ ∃ id ∈ ids,
      ¬ (Found stored events resourceType id ∧ Admits office resourceType.target id)) ∨
    ¬ ListsAdmitted office patch

/-- Once the run is authorized, everything that the patch selects is discovered. -/
def Discovers (services : Services) (office : OfficeV2Profile) (profile : Dict) (patch : Patch)
    (history : List SetupEvent) : Prop :=
  (checkDiscovered services office profile patch discoveryOrder
    (history ++ (requireAuthorization services profile history).events)).result = .ok ()

/-- A run is refused over targets only because of the patch, and a patch without SharePoint
lists and free/busy subjects is sent once its targets are discovered. -/
structure NeverBlocked (services : Services) (host : OfficeHost) (profile : Dict)
    (stored : ProfileScopeV2) (patch : Patch) (history : List SetupEvent)
    (run : Traced SetupEvent SetupFailure SetupSnapshot) : Prop where
  blamed : ∀ e, run.result = .error e → isTargetRefusal e = true →
    Blames host.office stored patch run.events
  sent : patch.lookup .sharePointListIds = none → patch.lookup .freebusySubjects = none →
    Discovers services host.office profile patch history →
      ∃ update returned, SetupEvent.updateSent update returned ∈ run.events

theorem requireUpdated_settles {found : Option Dict} :
    Settles IsOtherFailure (requireUpdated update found) := by
  have hUnknown : IsOtherFailure unknownUpdate := by decide
  cases found with
  | none => exact (settles_error _).mpr hUnknown
  | some current =>
      unfold requireUpdated
      dsimp only
      split
      · exact (settles_error _).mpr hUnknown
      split
      · exact (settles_error _).mpr (by decide)
      · exact settles_ok current

theorem reconcileUpdate_settles {found : Except SetupFailure (Option Dict)} :
    Settles IsOtherFailure (reconcileUpdate update found) := by
  have hUnknown : IsOtherFailure unknownUpdate := by decide
  unfold reconcileUpdate
  split
  · split
    · exact settles_ok _
    · exact (settles_error _).mpr hUnknown
  · exact (settles_error _).mpr hUnknown

/-- A commit fails over no target. -/
theorem commitUpdate_fails :
    Fails IsOtherFailure (commitUpdate services host principal update) := by
  refine .bind (fails_ask _ _) fun returned => .bind ?_ fun current => profileSnapshot_fails
  cases returned with
  | true => exact .bind readProfile_fails fun found => fails_lift requireUpdated_settles
  | false => exact .bind (fails_outcome _) fun found => fails_lift reconcileUpdate_settles

/-- A commit sends its update first. -/
theorem exists_updateSent (services : Services) (host : OfficeHost)
    (principal : MicrosoftPrincipal) (update : ScopeUpdate) (history : List SetupEvent) :
    ∃ returned, SetupEvent.updateSent update returned ∈
      (commitUpdate services host principal update history).events :=
  ⟨services.update history update, mem_events_bind.mpr (.inl List.mem_cons_self)⟩

/-- A patch that clears the subjects is refused before anything is read. -/
theorem prepareUpdate_of_cleared (hPatch : targetSelection request.targets = .ok patch)
    (hStored : storedScope profile = .ok (.v2 stored)) (h : clearsSubjects stored patch = true) :
    prepareUpdate services host principal profileRef profile request =
      fail (officeError "office_graph_target_selection_invalid") := by
  rw [prepareUpdate, lift_bind_of_ok hPatch, lift_bind_of_ok hStored,
    lift_bind_of_ok (requireV2_eq_ok.mpr rfl), h]
  exact lift_error_bind _ _

/-- A patch at the current revision of a healthy profile with a version 2 scope. -/
structure Current (services : Services) (profile payload : Dict) (request : SelectionRequest)
    (stored : ProfileScopeV2) (patch : Patch) (history : List SetupEvent) : Prop where
  requested : selectionRequest payload = .ok request
  revision : profile.get "credential_revision" = .int request.expectedRevision
  selected : targetSelection request.targets = .ok patch
  scope : storedScope profile = .ok (.v2 stored)
  healthy : (requireAuthorization services profile history).result = .ok ()

/-- Of such a run only the discovery, the building and the commit of an update are left. -/
theorem Current.run_eq (h : Current services profile payload request stored patch history)
    (hKept : clearsSubjects stored patch = false) :
    selectTargets services host principal profileRef profile payload =
      requireAuthorization services profile >>= fun _ =>
        (checkDiscovered services host.office profile patch discoveryOrder >>= fun _ =>
          lift (buildUpdate services host principal profileRef request.expectedRevision stored
            patch)) >>= fun update => commitUpdate services host principal update := by
  rw [selectTargets_of_request h.requested h.revision, prepareUpdate_of_stored h.selected h.scope hKept]

/-- What the discovery found was found in the run. -/
theorem Current.events (h : Current services profile payload request stored patch history)
    (hKept : clearsSubjects stored patch = false) :
    ∀ event ∈ (checkDiscovered services host.office profile patch discoveryOrder
        (history ++ (requireAuthorization services profile history).events)).events,
      event ∈ (selectTargets services host principal profileRef profile payload history).events := by
  intro event hMem
  rw [h.run_eq hKept]
  refine mem_events_bind.mpr (.inr ⟨(), h.healthy, mem_events_bind.mpr (.inl ?_)⟩)
  exact mem_events_bind.mpr (.inl hMem)

/-- A selection refused over targets was refused for its own sake, or the merged selection is
outside the allowlists. -/
theorem Current.refused {e : SetupFailure}
    (h : Current services profile payload request stored patch history)
    (hError : (selectTargets services host principal profileRef profile payload history).result =
      .error e) (hRefusal : isTargetRefusal e = true) :
    Blames host.office stored patch
        (selectTargets services host principal profileRef profile payload history).events ∨
      clearsSubjects stored patch = false ∧ Discovers services host.office profile patch history ∧
        withinAllowlists host.office (mergeTargets stored patch) = false := by
  have hOther : ∀ {e : SetupFailure}, IsOtherFailure e → isTargetRefusal e = true → False :=
    fun hOther hRefusal => Bool.false_ne_true (hOther.symm.trans hRefusal)
  cases hKept : clearsSubjects stored patch with
  | true =>
      rw [selectTargets_of_request h.requested h.revision,
        prepareUpdate_of_cleared h.selected h.scope hKept] at hError
      rcases result_bind_eq_error.mp hError with hError | ⟨_, -, hError⟩
      · exact (hOther (requireAuthorization_fails history e hError) hRefusal).elim
      · cases hError
        exact (hOther (by decide) hRefusal).elim
  | false =>
      rw [h.run_eq hKept] at hError
      rcases result_bind_eq_error.mp hError with hError | ⟨_, -, hError⟩
      · exact (hOther (requireAuthorization_fails history e hError) hRefusal).elim
      rcases result_bind_eq_error.mp hError with hError | ⟨update, -, hError⟩
      swap
      · exact (hOther (commitUpdate_fails _ e hError) hRefusal).elim
      rcases result_bind_eq_error.mp hError with hDiscovery | ⟨_, hDiscovered, hBuild⟩
      · obtain ⟨resourceType, -, ids, hIds, id, hMem, hMissing⟩ :=
          checkDiscovered_refused h.scope (by decide) hDiscovery hRefusal
        refine .inl (.inl ⟨resourceType, ids, hIds, id, hMem, fun hFound => hMissing ⟨?_, hFound.2⟩⟩)
        have hEvents := hFound.1
        rw [h.run_eq hKept, events_bind_of_ok h.healthy, events_bind_of_error hError,
          events_bind_of_error hDiscovery] at hEvents
        exact found_of_clock (requireAuthorization_emits history) hEvents
      · refine .inr ⟨rfl, hDiscovered, ?_⟩
        cases hWithin : withinAllowlists host.office (mergeTargets stored patch) with
        | false => rfl
        | true => exact (hOther (buildUpdate_settles hWithin e hBuild) hRefusal).elim

/-- What is sent was built of this patch. -/
theorem Current.sendable (h : Current services profile payload request stored patch history)
    {returned : Bool} (hSent : SetupEvent.updateSent update returned ∈
      (selectTargets services host principal profileRef profile payload history).events) :
    Sendable services stored patch := by
  obtain ⟨request', before, hRequest, hPrepared, -⟩ := selectTargets_sent hSent
  obtain rfl := Except.ok.inj (h.requested.symm.trans hRequest)
  obtain ⟨stored', patch', hUpdate, -⟩ := prepareUpdate_eq_ok hPrepared
  obtain rfl := Except.ok.inj (h.selected.symm.trans hUpdate.selection)
  obtain rfl := ProfileScope.v2.inj (Except.ok.inj (h.scope.symm.trans hUpdate.scope))
  exact (exists_buildUpdate.mp ⟨update, hUpdate.built⟩).2

/-- What a discovery found is no reason to refuse the patch. -/
theorem not_blames {events : List SetupEvent} (hStored : storedScope profile = .ok (.v2 stored))
    (hDiscovers : Discovers services host.office profile patch history)
    (hLists : ListsAdmitted host.office patch)
    (hEvents : ∀ event ∈ (checkDiscovered services host.office profile patch discoveryOrder
      (history ++ (requireAuthorization services profile history).events)).events, event ∈ events) :
    ¬ Blames host.office stored patch events := by
  rintro (⟨resourceType, ids, hIds, id, hMem, hMissing⟩ | hUnlisted)
  · obtain ⟨hFound, hAdmits⟩ := checkDiscovered_found hStored hDiscovers resourceType
      (mem_discoveryOrder resourceType) ids hIds id hMem
    exact hMissing ⟨found_mono hEvents hFound, hAdmits⟩
  · exact hUnlisted hLists

/-- A run never blocks over targets that its patch leaves alone just when, once all targets
of the patch are discovered and let through, the lists it leaves alone need no allowlist
that is missing, and the merged scope can be sent. -/
theorem untouched_never_block_iff {past : Services} {earlier : List SetupEvent}
    (hRead : (readProfile past host principal profileRef earlier).result = .ok (some profile))
    (hCurrent : Current services profile payload request stored patch history) :
    NeverBlocked services host profile stored patch history
        (selectTargets services host principal profileRef profile payload history) ↔
      (Discovers services host.office profile patch history →
        clearsSubjects stored patch = false → ListsAdmitted host.office patch →
          Unblocked host.office stored patch ∧
            (patch.lookup .sharePointListIds = none → patch.lookup .freebusySubjects = none →
              Sendable services stored patch)) := by
  obtain ⟨response, -, hRow⟩ := readProfile_eq_some hRead
  obtain ⟨found, hFound⟩ := selectRow_accepted hRow
  have hAccepted := storedScope_accepted hFound hCurrent.scope
  have hWithin : Discovers services host.office profile patch history →
      ListsAdmitted host.office patch →
      (withinAllowlists host.office (mergeTargets stored patch) = true ↔
        Unblocked host.office stored patch) := by
    intro hDiscovers hLists
    refine withinAllowlists_iff (validateProfileScope_valid hAccepted.valid)
      hAccepted.accepted.within (fun resourceType ids hIds id hMem => ?_) hLists
    exact (checkDiscovered_found hCurrent.scope hDiscovers resourceType
      (mem_discoveryOrder resourceType) ids hIds id hMem).2
  constructor
  · intro h hDiscovers hKept hLists
    refine ⟨?_, fun hNoLists hNoSubjects => ?_⟩
    · by_contra hBlocked
      have hOutside : withinAllowlists host.office (mergeTargets stored patch) = false :=
        Bool.eq_false_iff.mpr fun hInside => hBlocked ((hWithin hDiscovers hLists).mp hInside)
      have hError : (selectTargets services host principal profileRef profile payload
          history).result = .error (officeError "office_graph_target_outside_host_allowlist") := by
        rw [hCurrent.run_eq hKept]
        refine result_bind_eq_error.mpr (.inr ⟨(), hCurrent.healthy, ?_⟩)
        refine result_bind_eq_error.mpr (.inl (result_bind_eq_error.mpr (.inr ⟨(), hDiscovers, ?_⟩)))
        exact buildUpdate_refused hOutside
      exact not_blames hCurrent.scope hDiscovers hLists (hCurrent.events hKept)
        (h.blamed _ hError (by decide))
    · obtain ⟨update, returned, hSent⟩ := h.sent hNoLists hNoSubjects hDiscovers
      exact hCurrent.sendable hSent
  · intro h
    refine ⟨fun e hError hRefusal => ?_, fun hNoLists hNoSubjects hDiscovers => ?_⟩
    · rcases hCurrent.refused hError hRefusal with hBlames | ⟨hKept, hDiscovers, hOutside⟩
      · exact hBlames
      · refine .inr fun hLists => ?_
        have hInside := (hWithin hDiscovers hLists).mpr (h hDiscovers hKept hLists).1
        exact Bool.false_ne_true (hOutside.symm.trans hInside)
    · have hKept : clearsSubjects stored patch = false := by
        rw [clearsSubjects, hNoSubjects, Bool.and_eq_false_iff]
        exact .inr (by decide)
      have hLists : ListsAdmitted host.office patch := by
        intro ids hIds
        rw [hNoLists] at hIds
        cases hIds
      obtain ⟨hUnblocked, hSendable⟩ := h hDiscovers hKept hLists
      have hInside := (hWithin hDiscovers hLists).mpr hUnblocked
      obtain ⟨update, hBuilt⟩ : ∃ update, buildUpdate services host principal profileRef
          request.expectedRevision stored patch = .ok update :=
        exists_buildUpdate.mpr ⟨hInside, hSendable hNoLists hNoSubjects⟩
      let reached := history ++ (requireAuthorization services profile history).events
      let prepare : Setup ScopeUpdate :=
        checkDiscovered services host.office profile patch discoveryOrder >>= fun _ =>
          lift (buildUpdate services host principal profileRef request.expectedRevision stored patch)
      have hPrepared : (prepare reached).result = .ok update :=
        result_bind_eq_ok.mpr ⟨(), hDiscovers, hBuilt⟩
      obtain ⟨returned, hSent⟩ := exists_updateSent services host principal update
        (reached ++ (prepare reached).events)
      rw [hCurrent.run_eq hKept]
      refine ⟨update, returned, mem_events_bind.mpr (.inr ⟨(), hCurrent.healthy, ?_⟩)⟩
      exact mem_events_bind.mpr (.inr ⟨update, hPrepared, hSent⟩)

def plannerRequest : SelectionRequest where
  expectedRevision := 3
  targets := .dict [("plannerPlanIds", .list [.str plannerPlan])]

def plannerPatch : Patch := [(.plannerPlanIds, [plannerPlan])]

theorem plannerCurrent :
    Current plannerServices plannerRow plannerPayload plannerRequest plannerScope plannerPatch [] where
  requested := rfl
  revision := rfl
  selected := rfl
  scope := rfl
  healthy := rfl

theorem untouched_never_block_sample : NeverBlocked plannerServices
    (plannerHost [text "ada@example.org"]) plannerRow plannerScope plannerPatch []
      (plannerRun [text "ada@example.org"]) := by
  have hRead : (readProfile plannerServices (plannerHost [text "ada@example.org"]) plannerOwner
      (text "graph") []).result = .ok (some plannerRow) := rfl
  refine (untouched_never_block_iff hRead plannerCurrent).mpr fun _ _ _ => ⟨?_, fun _ _ => ?_⟩
  · rintro name (rfl | rfl) -
    · exact .inl rfl
    · exact .inr (List.cons_ne_nil _ _)
  · exact ⟨_, _, rfl, rfl⟩

/-- No plan can be selected while the subjects that are stored have no allowlist. -/
theorem untouched_subjects_block : ¬ ∀ (past services : Services) (host : OfficeHost)
    (principal : MicrosoftPrincipal) (profileRef : Str) (profile payload : Dict)
    (request : SelectionRequest) (stored : ProfileScopeV2) (patch : Patch)
    (earlier history : List SetupEvent),
    (readProfile past host principal profileRef earlier).result = .ok (some profile) →
    Current services profile payload request stored patch history →
      NeverBlocked services host profile stored patch history
        (selectTargets services host principal profileRef profile payload history) := by
  intro h
  have hNever := h plannerServices plannerServices (plannerHost []) plannerOwner (text "graph")
    plannerRow plannerPayload plannerRequest plannerScope plannerPatch [] [] rfl plannerCurrent
  have hError : (plannerRun []).result =
      .error (officeError "office_graph_target_outside_host_allowlist") := rfl
  have hLists : ListsAdmitted (plannerHost []).office plannerPatch := by
    rintro ids ⟨⟩
  have hDiscovers : Discovers plannerServices (plannerHost []).office plannerRow plannerPatch [] :=
    rfl
  exact not_blames plannerCurrent.scope hDiscovers hLists
    (plannerCurrent.events rfl) (hNever.blamed _ hError rfl)

end Runs

end CyreneExchange.Integrations.Graph
