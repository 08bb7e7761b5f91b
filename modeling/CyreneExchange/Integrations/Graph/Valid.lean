import CyreneExchange.Integrations.Graph.Scope

/-! Valid scopes: what the validation guarantees of a scope that it returns, and
that it returns the value of a valid scope unchanged. -/
namespace CyreneExchange.Integrations.Graph
open CyreneExchange.General CyreneExchange.Gateway

section Checks

variable {α β : Type} {message : String}

theorem ensure_eq_ok {condition : Bool} {u : Unit} :
    ensure condition message = .ok u ↔ condition = true := by
  cases condition <;> simp [ensure]

theorem narrow_eq_ok {value : Option α} {a : α} : narrow value message = .ok a ↔ value = some a := by
  cases value <;> simp [narrow]

theorem listItems_eq_some {value : Value} {items : List Value} :
    listItems value = some items ↔ value = .list items := by
  cases value <;> simp [listItems]

theorem exactFields_eq_ok {value : Value} {fields : List String} {d : Dict} :
    exactFields value fields message = .ok d ↔
      value = .dict d ∧ d.keysAre (fields.map text) = true := by
  rw [exactFields, narrow_eq_ok, Option.filter_eq_some_iff, Value.asDict_eq_some]

theorem map_eq_ok {x : Validated α} {f : α → β} {b : β} :
    x.map f = .ok b ↔ ∃ a, x = .ok a ∧ b = f a := by
  cases x <;> simp [Except.map, eq_comm]

theorem ok_bind {x : Validated α} {f : α → Validated β} {a : α} (h : x = .ok a) : x >>= f = f a := by
  rw [h]
  rfl

theorem ensure_bind {condition : Bool} {f : Unit → Validated β} (h : condition = true) :
    ensure condition message >>= f = f () :=
  ok_bind (ensure_eq_ok.mpr h)

end Checks

section Identifiers

variable {label : String} {value : Value} {id : Str}

theorem plannerId_eq_ok : plannerId label value = .ok id ↔ value = .str id ∧ isPlannerId id = true := by
  rw [plannerId, narrow_eq_ok, Option.filter_eq_some_iff, Value.asStr_eq_some]

theorem opaqueResourceId_eq_ok :
    opaqueResourceId label value = .ok id ↔ value = .str id ∧ isOpaqueResourceId id = true := by
  rw [opaqueResourceId, narrow_eq_ok, Option.filter_eq_some_iff, Value.asStr_eq_some]

/-- A GUID in lower case. -/
def IsCanonicalGuid (id : Str) : Prop := isGuid id = true ∧ id = id.lower

theorem validateSharepointListId_eq_ok :
    validateSharepointListId value = .ok id ↔ value = .str id ∧ IsCanonicalGuid id := by
  simp only [validateSharepointListId, except_bind_eq_ok, narrow_eq_ok, Option.filter_eq_some_iff,
    Value.asStr_eq_some, ensure_eq_ok, decide_eq_true_eq, pure, Except.pure, Except.ok.injEq]
  constructor
  · rintro ⟨found, ⟨hValue, hGuid⟩, _, hLower, rfl⟩
    exact ⟨hValue, hGuid, hLower⟩
  · rintro ⟨hValue, hGuid, hLower⟩
    exact ⟨id, ⟨hValue, hGuid⟩, (), hLower, rfl⟩

theorem canonicalUuid_eq_ok :
    canonicalUuid label value = .ok id ↔ value = .str id ∧ IsCanonicalGuid id := by
  simp only [canonicalUuid, except_bind_eq_ok, narrow_eq_ok, Option.filter_eq_some_iff,
    Value.asStr_eq_some, ensure_eq_ok, decide_eq_true_eq, pure, Except.pure, Except.ok.injEq]
  constructor
  · rintro ⟨found, ⟨hValue, hGuid⟩, _, hLower, rfl⟩
    exact ⟨hValue, hGuid, hLower⟩
  · rintro ⟨hValue, hGuid, hLower⟩
    exact ⟨id, ⟨hValue, hGuid⟩, (), hLower, rfl⟩

/-- A free/busy subject as the validation leaves it, however long. -/
structure IsFoldedSubject (id : Str) : Prop where
  minimum : 3 ≤ id.length
  address : isAddress id = true
  folded : casefold id = id

theorem validateSubject_eq_ok : validateSubject value = .ok id ↔
    ∃ s, value = .str s ∧ isSubject s = true ∧ id = casefold s := by
  simp only [validateSubject, map_eq_ok, narrow_eq_ok, Option.filter_eq_some_iff,
    Value.asStr_eq_some, and_assoc]

theorem isFoldedSubject_casefold {s : Str} (h : isSubject s = true) : IsFoldedSubject (casefold s) := by
  simp only [isSubject, Bool.and_eq_true, decide_eq_true_eq] at h
  obtain ⟨⟨⟨hMinimum, -⟩, -⟩, hAddress⟩ := h
  exact ⟨Nat.le_trans hMinimum (length_le_casefold s), isAddress_casefold hAddress, casefold_casefold s⟩

/-- A folded subject is accepted again when it is short enough. -/
theorem validateSubject_folded (h : IsFoldedSubject id) :
    validateSubject (.str id) = .ok id ↔ id.length ≤ 320 := by
  rw [validateSubject_eq_ok]
  constructor
  · rintro ⟨s, hSame, hSubject, -⟩
    cases hSame
    simp only [isSubject, Bool.and_eq_true, decide_eq_true_eq] at hSubject
    exact hSubject.1.1.2
  · intro hShort
    refine ⟨id, rfl, ?_, h.folded.symm⟩
    simp only [isSubject, Bool.and_eq_true, decide_eq_true_eq]
    exact ⟨⟨⟨h.minimum, hShort⟩, strip_of_isAddress h.address⟩, h.address⟩

end Identifiers

section Lists

variable {validate : Value → Validated Str} {label : String} {ids : List Str}

/-- A list of selected targets. -/
structure TargetList (good : Str → Prop) (ids : List Str) : Prop where
  bounded : ids.length ≤ 100
  distinct : ids.Nodup
  all : ∀ id ∈ ids, good id

theorem uniqueIds_eq_ok {value : Value} : uniqueIds validate label value = .ok ids ↔
    ∃ items, value = .list items ∧ items.length ≤ 100 ∧
      List.Forall₂ (fun item id => validate item = .ok id) items ids ∧ ids.Nodup := by
  simp only [uniqueIds, except_bind_eq_ok, narrow_eq_ok, Option.filter_eq_some_iff,
    listItems_eq_some, decide_eq_true_eq, ensure_eq_ok, pure, Except.pure, Except.ok.injEq]
  constructor
  · rintro ⟨items, ⟨hValue, hBounded⟩, found, hEach, _, hDistinct, rfl⟩
    exact ⟨items, hValue, hBounded, forall₂_of_each (fun _ _ _ _ h => h) hEach, hDistinct⟩
  · rintro ⟨items, hValue, hBounded, hItems, hDistinct⟩
    refine ⟨items, ⟨hValue, hBounded⟩, ids, ?_, (), hDistinct, rfl⟩
    exact each_of_forall₂ (hItems.imp fun _ _ h _ => h) 0

/-- A list whose items are all texts, and what becomes of each. -/
theorem texts_of_forall₂ {items : List Value} {rewrite : Str → Str} {good : Str → Prop}
    (h : List.Forall₂ (fun item id => ∃ s, item = .str s ∧ good s ∧ id = rewrite s) items ids) :
    ids = (items.filterMap Value.asStr).map rewrite ∧ ∀ s ∈ items.filterMap Value.asStr, good s := by
  induction h with
  | nil => exact ⟨rfl, List.forall_mem_nil _⟩
  | cons hItem _ ih =>
      obtain ⟨s, rfl, hGood, rfl⟩ := hItem
      refine ⟨?_, List.forall_mem_cons.mpr ⟨hGood, ih.2⟩⟩
      rw [ih.1]
      rfl

theorem targetList_of_uniqueIds {good : Str → Prop} {value : Value}
    (hGood : ∀ value id, validate value = .ok id → good id)
    (h : uniqueIds validate label value = .ok ids) : TargetList good ids := by
  obtain ⟨items, rfl, hBounded, hItems, hDistinct⟩ := uniqueIds_eq_ok.mp h
  refine ⟨hItems.length_eq ▸ hBounded, hDistinct, ?_⟩
  exact forall_of_forall₂ hItems fun item _ id hId => hGood item id hId

/-- Valid targets are accepted again as they are. -/
theorem uniqueIds_texts {good : Str → Prop}
    (hGood : ∀ id ∈ ids, validate (.str id) = .ok id ↔ good id)
    (hTargets : ids.length ≤ 100 ∧ ids.Nodup) :
    uniqueIds validate label (texts ids) = .ok ids ↔ ∀ id ∈ ids, good id := by
  rw [uniqueIds_eq_ok]
  constructor
  · rintro ⟨items, hSame, -, hItems, -⟩
    cases hSame
    intro id hMem
    rw [List.forall₂_map_left_iff] at hItems
    exact (hGood id hMem).mp (List.forall₂_same.mp hItems id hMem)
  · intro hAll
    refine ⟨_, rfl, by rw [List.length_map]; exact hTargets.1, ?_, hTargets.2⟩
    rw [List.forall₂_map_left_iff, List.forall₂_same]
    exact fun id hMem => (hGood id hMem).mpr (hAll id hMem)

/-- Targets that are accepted are good, however they come out. -/
theorem forall_of_uniqueIds_texts {good : Str → Prop} {found : List Str}
    (hGood : ∀ s id, validate (.str s) = .ok id → good s)
    (h : uniqueIds validate label (texts ids) = .ok found) : ∀ id ∈ ids, good id := by
  obtain ⟨items, hSame, -, hItems, -⟩ := uniqueIds_eq_ok.mp h
  cases hSame
  rw [List.forall₂_map_left_iff] at hItems
  exact ((List.forall₂_and_left ids found).mp
    (hItems.imp fun id result hResult => ⟨hGood id result hResult, hResult⟩)).1

theorem uniqueIds_planner (h : TargetList (isPlannerId · = true) ids) :
    uniqueIds (plannerId label) label (texts ids) = .ok ids :=
  (uniqueIds_texts (fun _ _ => plannerId_eq_ok.trans (and_iff_right rfl))
    ⟨h.bounded, h.distinct⟩).mpr h.all

theorem uniqueIds_opaqueResource (h : TargetList (isOpaqueResourceId · = true) ids) :
    uniqueIds (opaqueResourceId label) label (texts ids) = .ok ids :=
  (uniqueIds_texts (fun _ _ => opaqueResourceId_eq_ok.trans (and_iff_right rfl))
    ⟨h.bounded, h.distinct⟩).mpr h.all

theorem uniqueIds_sharepoint (h : TargetList IsCanonicalGuid ids) :
    uniqueIds validateSharepointListId label (texts ids) = .ok ids :=
  (uniqueIds_texts (fun _ _ => validateSharepointListId_eq_ok.trans (and_iff_right rfl))
    ⟨h.bounded, h.distinct⟩).mpr h.all

/-- Folded subjects are accepted again when all of them are short enough. -/
theorem uniqueIds_subjects (h : TargetList IsFoldedSubject ids) :
    uniqueIds validateSubject label (texts ids) = .ok ids ↔ ∀ id ∈ ids, id.length ≤ 320 :=
  uniqueIds_texts (fun id hMem => validateSubject_folded (h.all id hMem)) ⟨h.bounded, h.distinct⟩

end Lists

section Parts

/-- A SharePoint site, present exactly where the feature is enabled. -/
structure SiteValid (enabled : Bool) (siteId : Option Str) : Prop where
  selected : enabled = false ∨ siteId.any isValidSharepointSiteId = true
  absent : enabled = true ∨ siteId = none

structure PlannerScope.Valid (planner : PlannerScope) : Prop where
  planIds : TargetList (isPlannerId · = true) planner.planIds
  write : planner.tasksWrite = false ∨ planner.tasksRead = true
  targets : planner.planIds = [] ∨ planner.tasksRead = true

structure SharepointV1Scope.Valid (sharepoint : SharepointV1Scope) : Prop where
  listIds : TargetList IsCanonicalGuid sharepoint.listIds
  site : SiteValid sharepoint.enabled sharepoint.siteId
  complete : sharepoint.enabled = false ∨ sharepoint.listIds ≠ []
  disabled : sharepoint.enabled = true ∨ sharepoint.listIds = []

structure SharepointScope.Valid (sharepoint : SharepointScope) : Prop where
  listIds : TargetList IsCanonicalGuid sharepoint.listIds
  driveIds : TargetList (isOpaqueResourceId · = true) sharepoint.driveIds
  site : SiteValid sharepoint.enabled sharepoint.siteId
  complete : sharepoint.enabled = false ∨ sharepoint.metadataRead = true
  disabled : sharepoint.enabled = true ∨ sharepoint.listIds = [] ∧ sharepoint.driveIds = [] ∧
    sharepoint.metadataRead = false

structure TodoScope.Valid (todo : TodoScope) : Prop where
  taskListIds : TargetList (isOpaqueResourceId · = true) todo.taskListIds
  write : todo.tasksWrite = false ∨ todo.tasksRead = true
  complete : todo.enabled = false ∨ todo.tasksRead = true
  disabled : todo.enabled = true ∨ todo.taskListIds = [] ∧ todo.tasksRead = false ∧
    todo.tasksWrite = false

structure CalendarScope.Valid (calendar : CalendarScope) : Prop where
  calendarIds : TargetList (isOpaqueResourceId · = true) calendar.calendarIds
  freebusySubjects : TargetList IsFoldedSubject calendar.freebusySubjects
  complete : calendar.enabled = false ∨ calendar.eventsRead = true ∨ calendar.eventsWrite = true ∨
    calendar.freebusyRead = true
  subjects : calendar.enabled = false ∨ calendar.freebusyRead = false ∨
    calendar.freebusySubjects ≠ []
  disabled : calendar.enabled = true ∨ calendar.calendarIds = [] ∧ calendar.freebusySubjects = [] ∧
    calendar.eventsRead = false ∧ calendar.eventsWrite = false ∧ calendar.freebusyRead = false

structure MailScope.Valid (mail : MailScope) : Prop where
  folderIds : TargetList (isOpaqueResourceId · = true) mail.folderIds
  complete : mail.enabled = false ∨ mail.metadataRead = true ∨ mail.draftsWrite = true ∨
    mail.sendEnabled = true
  folders : mail.enabled = false ∨ mail.folderIds = [] ∨ mail.metadataRead = true
  disabled : mail.enabled = true ∨ mail.folderIds = [] ∧ mail.metadataRead = false ∧
    mail.draftsWrite = false ∧ mail.sendEnabled = false

theorem validatePlannerScope_valid {value : Value} {planner : PlannerScope}
    (h : validatePlannerScope value true = .ok planner) : planner.Valid := by
  obtain ⟨d, -, h⟩ := except_bind_eq_ok.mp h
  obtain ⟨planIds, hIds, h⟩ := except_bind_eq_ok.mp h
  obtain ⟨tasksRead, -, h⟩ := except_bind_eq_ok.mp h
  obtain ⟨tasksWrite, -, h⟩ := except_bind_eq_ok.mp h
  obtain ⟨_, hWrite, h⟩ := except_bind_eq_ok.mp h
  obtain ⟨_, hTargets, h⟩ := except_bind_eq_ok.mp h
  obtain ⟨_, -, h⟩ := except_bind_eq_ok.mp h
  cases h
  simp only [ensure_eq_ok, Bool.or_eq_true, Bool.not_eq_true', List.isEmpty_iff] at hWrite hTargets
  exact ⟨targetList_of_uniqueIds (fun _ _ h => (plannerId_eq_ok.mp h).2) hIds, hWrite, hTargets⟩

theorem validatePlannerScope_toValue {planner : PlannerScope} (h : planner.Valid) :
    validatePlannerScope planner.toValue true = .ok planner := by
  refine (ok_bind rfl).trans ?_
  refine (ok_bind (uniqueIds_planner h.planIds)).trans ?_
  refine (ok_bind rfl).trans ?_
  refine (ok_bind rfl).trans ?_
  refine (ensure_bind (by simpa using h.write)).trans ?_
  refine (ensure_bind (by simpa using h.targets)).trans ?_
  exact ensure_bind rfl

theorem siteValid_of_checks {d : Dict} {enabled rest : Bool}
    (hSelected : (!enabled || (rest && (d.get "site_id").asStr.any isValidSharepointSiteId)) = true)
    (hAbsent : enabled = true ∨ (d.get "site_id").isNone = true) :
    SiteValid enabled (d.get "site_id").asStr := by
  simp only [Bool.or_eq_true, Bool.not_eq_true', Bool.and_eq_true] at hSelected
  refine ⟨hSelected.imp_right And.right, hAbsent.imp_right fun hNone => ?_⟩
  rw [Value.isNone_eq_true.mp hNone]
  rfl

theorem validateSharepointV2Scope_spec {value : Value} {sharepoint : SharepointScope}
    (h : validateSharepointV2Scope value = .ok sharepoint) :
    uniqueIds (opaqueResourceId "SharePoint drive IDs") "SharePoint drive IDs"
      (field value "drive_ids") = .ok sharepoint.driveIds ∧ sharepoint.Valid := by
  obtain ⟨d, hFields, h⟩ := except_bind_eq_ok.mp h
  obtain ⟨enabled, -, h⟩ := except_bind_eq_ok.mp h
  obtain ⟨metadataRead, -, h⟩ := except_bind_eq_ok.mp h
  obtain ⟨_, -, h⟩ := except_bind_eq_ok.mp h
  obtain ⟨listIds, hLists, h⟩ := except_bind_eq_ok.mp h
  obtain ⟨driveIds, hDrives, h⟩ := except_bind_eq_ok.mp h
  obtain ⟨_, hSelected, h⟩ := except_bind_eq_ok.mp h
  obtain ⟨_, hDisabled, h⟩ := except_bind_eq_ok.mp h
  cases h
  rw [ensure_eq_ok] at hSelected hDisabled
  have hSite := hSelected
  simp only [Bool.or_eq_true, Bool.and_eq_true, Bool.not_eq_true', List.isEmpty_iff]
    at hSelected hDisabled
  obtain ⟨rfl, -⟩ := exactFields_eq_ok.mp hFields
  refine ⟨hDrives, ?_⟩
  exact ⟨targetList_of_uniqueIds (fun _ _ h => (validateSharepointListId_eq_ok.mp h).2) hLists,
    targetList_of_uniqueIds (fun _ _ h => (opaqueResourceId_eq_ok.mp h).2) hDrives,
    siteValid_of_checks hSite (hDisabled.imp_right fun hNone => hNone.1.1.1),
    hSelected.imp_right And.left, hDisabled.imp_right fun hNone => ⟨hNone.1.1.2, hNone.1.2, hNone.2⟩⟩

theorem asStr_optionalStr (s : Option Str) : (optionalStr s).asStr = s := by
  cases s <;> rfl

theorem validateSharepointV2Scope_toValue {sharepoint : SharepointScope} (h : sharepoint.Valid) :
    validateSharepointV2Scope sharepoint.toValue = .ok sharepoint := by
  have hSelected : (!sharepoint.enabled || (sharepoint.metadataRead &&
      (optionalStr sharepoint.siteId).asStr.any isValidSharepointSiteId)) = true := by
    rw [asStr_optionalStr]
    simpa using (or_and_left.mpr ⟨h.complete, h.site.selected⟩)
  have hDisabled : (sharepoint.enabled || ((optionalStr sharepoint.siteId).isNone &&
      sharepoint.listIds.isEmpty && sharepoint.driveIds.isEmpty && !sharepoint.metadataRead)) =
        true := by
    rcases h.site.absent with hEnabled | hNone
    · rw [hEnabled, Bool.true_or]
    · simpa [hNone, optionalStr, Value.isNone, and_assoc] using h.disabled
  refine (ok_bind rfl).trans ?_
  refine (ok_bind rfl).trans ?_
  refine (ok_bind rfl).trans ?_
  refine (ensure_bind rfl).trans ?_
  refine (ok_bind (uniqueIds_sharepoint h.listIds)).trans ?_
  refine (ok_bind (uniqueIds_opaqueResource h.driveIds)).trans ?_
  refine (ensure_bind hSelected).trans ?_
  refine (ensure_bind hDisabled).trans ?_
  change Except.ok { sharepoint with siteId := (optionalStr sharepoint.siteId).asStr } = _
  rw [asStr_optionalStr]

theorem validateTodoScope_spec {value : Value} {todo : TodoScope}
    (h : validateTodoScope value = .ok todo) :
    uniqueIds (opaqueResourceId "To Do task list IDs") "To Do task list IDs"
      (field value "task_list_ids") = .ok todo.taskListIds ∧ todo.Valid := by
  obtain ⟨d, hFields, h⟩ := except_bind_eq_ok.mp h
  obtain ⟨taskListIds, hIds, h⟩ := except_bind_eq_ok.mp h
  obtain ⟨enabled, -, h⟩ := except_bind_eq_ok.mp h
  obtain ⟨tasksRead, -, h⟩ := except_bind_eq_ok.mp h
  obtain ⟨tasksWrite, -, h⟩ := except_bind_eq_ok.mp h
  obtain ⟨_, hWrite, h⟩ := except_bind_eq_ok.mp h
  obtain ⟨_, hComplete, h⟩ := except_bind_eq_ok.mp h
  obtain ⟨_, hDisabled, h⟩ := except_bind_eq_ok.mp h
  cases h
  simp only [ensure_eq_ok, Bool.or_eq_true, Bool.and_eq_true, Bool.not_eq_true', List.isEmpty_iff,
    and_assoc] at hWrite hComplete hDisabled
  obtain ⟨rfl, -⟩ := exactFields_eq_ok.mp hFields
  refine ⟨hIds, ?_⟩
  exact ⟨targetList_of_uniqueIds (fun _ _ h => (opaqueResourceId_eq_ok.mp h).2) hIds, hWrite,
    hComplete, hDisabled⟩

theorem validateTodoScope_toValue {todo : TodoScope} (h : todo.Valid) :
    validateTodoScope todo.toValue = .ok todo := by
  refine (ok_bind rfl).trans ?_
  refine (ok_bind (uniqueIds_opaqueResource h.taskListIds)).trans ?_
  refine (ok_bind rfl).trans ?_
  refine (ok_bind rfl).trans ?_
  refine (ok_bind rfl).trans ?_
  refine (ensure_bind (by simpa using h.write)).trans ?_
  refine (ensure_bind (by simpa using h.complete)).trans ?_
  exact ensure_bind (by simpa [and_assoc] using h.disabled)

theorem validateCalendarScope_spec {value : Value} {calendar : CalendarScope}
    (h : validateCalendarScope value = .ok calendar) :
    uniqueIds (opaqueResourceId "Calendar IDs") "Calendar IDs" (field value "calendar_ids") =
        .ok calendar.calendarIds ∧
      uniqueIds validateSubject "free/busy subjects" (field value "freebusy_subjects") =
        .ok calendar.freebusySubjects ∧ calendar.Valid := by
  obtain ⟨d, hFields, h⟩ := except_bind_eq_ok.mp h
  obtain ⟨enabled, -, h⟩ := except_bind_eq_ok.mp h
  obtain ⟨eventsRead, -, h⟩ := except_bind_eq_ok.mp h
  obtain ⟨eventsWrite, -, h⟩ := except_bind_eq_ok.mp h
  obtain ⟨freebusyRead, -, h⟩ := except_bind_eq_ok.mp h
  obtain ⟨attendeesWrite, -, h⟩ := except_bind_eq_ok.mp h
  obtain ⟨calendarIds, hIds, h⟩ := except_bind_eq_ok.mp h
  obtain ⟨freebusySubjects, hSubjects, h⟩ := except_bind_eq_ok.mp h
  obtain ⟨_, -, h⟩ := except_bind_eq_ok.mp h
  obtain ⟨_, hComplete, h⟩ := except_bind_eq_ok.mp h
  obtain ⟨_, hSelected, h⟩ := except_bind_eq_ok.mp h
  obtain ⟨_, hDisabled, h⟩ := except_bind_eq_ok.mp h
  cases h
  simp only [ensure_eq_ok, Bool.or_eq_true, Bool.and_eq_true, Bool.not_eq_true', List.isEmpty_iff,
    List.isEmpty_eq_false_iff, and_assoc, or_assoc] at hComplete hSelected hDisabled
  obtain ⟨rfl, -⟩ := exactFields_eq_ok.mp hFields
  refine ⟨hIds, hSubjects, ?_⟩
  refine ⟨targetList_of_uniqueIds (fun _ _ h => (opaqueResourceId_eq_ok.mp h).2) hIds,
    targetList_of_uniqueIds ?_ hSubjects, hComplete, hSelected, hDisabled⟩
  intro value id hId
  obtain ⟨s, -, hSubject, rfl⟩ := validateSubject_eq_ok.mp hId
  exact isFoldedSubject_casefold hSubject

/-- The value of a valid calendar is accepted again when its subjects are short. -/
theorem validateCalendarScope_toValue {calendar : CalendarScope} (h : calendar.Valid) :
    validateCalendarScope calendar.toValue = .ok calendar ↔
      ∀ id ∈ calendar.freebusySubjects, id.length ≤ 320 := by
  have hSubjects : uniqueIds validateSubject "free/busy subjects"
      (texts calendar.freebusySubjects) = .ok calendar.freebusySubjects ↔
        ∀ id ∈ calendar.freebusySubjects, id.length ≤ 320 := uniqueIds_subjects h.freebusySubjects
  rw [← hSubjects]
  constructor
  · intro hAccepted
    exact (validateCalendarScope_spec hAccepted).2.1
  · intro hAgain
    refine (ok_bind rfl).trans ?_
    refine (ok_bind rfl).trans ?_
    refine (ok_bind rfl).trans ?_
    refine (ok_bind rfl).trans ?_
    refine (ok_bind rfl).trans ?_
    refine (ok_bind rfl).trans ?_
    refine (ok_bind (uniqueIds_opaqueResource h.calendarIds)).trans ?_
    refine (ok_bind hAgain).trans ?_
    refine (ensure_bind rfl).trans ?_
    refine (ensure_bind (by simpa [or_assoc] using h.complete)).trans ?_
    refine (ensure_bind (by simpa [or_assoc] using h.subjects)).trans ?_
    exact ensure_bind (by simpa [and_assoc] using h.disabled)

theorem validateMailScope_spec {value : Value} {mail : MailScope}
    (h : validateMailScope value = .ok mail) :
    uniqueIds (opaqueResourceId "Mail folder IDs") "Mail folder IDs" (field value "folder_ids") =
      .ok mail.folderIds ∧ mail.Valid := by
  obtain ⟨d, hFields, h⟩ := except_bind_eq_ok.mp h
  obtain ⟨enabled, -, h⟩ := except_bind_eq_ok.mp h
  obtain ⟨metadataRead, -, h⟩ := except_bind_eq_ok.mp h
  obtain ⟨bodyRead, -, h⟩ := except_bind_eq_ok.mp h
  obtain ⟨draftsWrite, -, h⟩ := except_bind_eq_ok.mp h
  obtain ⟨sendEnabled, -, h⟩ := except_bind_eq_ok.mp h
  obtain ⟨_, -, h⟩ := except_bind_eq_ok.mp h
  obtain ⟨folderIds, hIds, h⟩ := except_bind_eq_ok.mp h
  obtain ⟨_, hComplete, h⟩ := except_bind_eq_ok.mp h
  obtain ⟨_, hFolders, h⟩ := except_bind_eq_ok.mp h
  obtain ⟨_, hDisabled, h⟩ := except_bind_eq_ok.mp h
  cases h
  simp only [ensure_eq_ok, Bool.or_eq_true, Bool.and_eq_true, Bool.not_eq_true', List.isEmpty_iff,
    and_assoc, or_assoc] at hComplete hFolders hDisabled
  obtain ⟨rfl, -⟩ := exactFields_eq_ok.mp hFields
  refine ⟨hIds, ?_⟩
  exact ⟨targetList_of_uniqueIds (fun _ _ h => (opaqueResourceId_eq_ok.mp h).2) hIds, hComplete,
    hFolders, hDisabled⟩

theorem validateMailScope_toValue {mail : MailScope} (h : mail.Valid) :
    validateMailScope mail.toValue = .ok mail := by
  refine (ok_bind rfl).trans ?_
  refine (ok_bind rfl).trans ?_
  refine (ok_bind rfl).trans ?_
  refine (ok_bind rfl).trans ?_
  refine (ok_bind rfl).trans ?_
  refine (ok_bind rfl).trans ?_
  refine (ensure_bind rfl).trans ?_
  refine (ok_bind (uniqueIds_opaqueResource h.folderIds)).trans ?_
  refine (ensure_bind (by simpa [or_assoc] using h.complete)).trans ?_
  refine (ensure_bind (by simpa [or_assoc] using h.folders)).trans ?_
  exact ensure_bind (by simpa [and_assoc] using h.disabled)

end Parts

section Profiles

/-- The Planner part of a version 1 scope is never disabled. -/
structure ProfileScopeV1.Valid (scope : ProfileScopeV1) : Prop where
  tenant : IsCanonicalGuid scope.tenantId
  planIds : TargetList (isPlannerId · = true) scope.planner.planIds
  plans : scope.planner.planIds ≠ []
  read : scope.planner.tasksRead = true
  sharepoint : scope.sharepoint.Valid

structure ProfileScopeV2.Valid (scope : ProfileScopeV2) : Prop where
  tenant : IsCanonicalGuid scope.tenantId
  workspace : IsCanonicalGuid scope.workspaceId
  planner : scope.planner.Valid
  sharepoint : scope.sharepoint.Valid
  todo : scope.todo.Valid
  calendar : scope.calendar.Valid
  mail : scope.mail.Valid

/-- A scope as the validation leaves it. -/
def ProfileScope.Valid : ProfileScope → Prop
  | .v1 scope => scope.Valid
  | .v2 scope => scope.Valid

/-- The free/busy subjects of a scope; version 1 has none. -/
def ProfileScope.freebusySubjects : ProfileScope → List Str
  | .v1 _ => []
  | .v2 scope => scope.calendar.freebusySubjects

theorem validateV1ProfileScope_valid {value : Dict} {scope : ProfileScopeV1}
    (h : validateV1ProfileScope value = .ok scope) : scope.Valid := by
  obtain ⟨tenantId, hTenant, h⟩ := except_bind_eq_ok.mp h
  obtain ⟨planner, -, h⟩ := except_bind_eq_ok.mp h
  obtain ⟨planIds, hPlans, h⟩ := except_bind_eq_ok.mp h
  obtain ⟨tasksRead, -, h⟩ := except_bind_eq_ok.mp h
  obtain ⟨tasksWrite, -, h⟩ := except_bind_eq_ok.mp h
  obtain ⟨_, hPlanner, h⟩ := except_bind_eq_ok.mp h
  obtain ⟨sharepoint, -, h⟩ := except_bind_eq_ok.mp h
  obtain ⟨listIds, hLists, h⟩ := except_bind_eq_ok.mp h
  obtain ⟨enabled, -, h⟩ := except_bind_eq_ok.mp h
  obtain ⟨_, hSelected, h⟩ := except_bind_eq_ok.mp h
  obtain ⟨_, hDisabled, h⟩ := except_bind_eq_ok.mp h
  cases h
  have hGuid : isGuid tenantId = true :=
    (Option.filter_eq_some_iff.mp (narrow_eq_ok.mp hTenant)).2
  rw [ensure_eq_ok] at hPlanner hSelected hDisabled
  have hSite := Bool.and_comm _ _ ▸ hSelected
  simp only [Bool.or_eq_true, Bool.and_eq_true, Bool.not_eq_true', List.isEmpty_iff,
    List.isEmpty_eq_false_iff] at hPlanner hSelected hDisabled
  have hTargets : TargetList IsCanonicalGuid listIds :=
    targetList_of_uniqueIds (fun _ _ h => (validateSharepointListId_eq_ok.mp h).2) hLists
  exact
    { tenant := ⟨(isGuid_lower hGuid).1, (isGuid_lower hGuid).2.symm⟩
      planIds := targetList_of_uniqueIds (fun _ _ h => (plannerId_eq_ok.mp h).2) hPlans
      plans := hPlanner.1
      read := hPlanner.2
      sharepoint := ⟨hTargets, siteValid_of_checks hSite (hDisabled.imp_right And.left),
        hSelected.imp_right And.right, hDisabled.imp_right And.right⟩ }

theorem validateV1ProfileScope_toValue {scope : ProfileScopeV1} (h : scope.Valid) :
    validateProfileScope scope.toValue = .ok (.v1 scope) := by
  have hSelected : (!scope.sharepoint.enabled ||
      ((optionalStr scope.sharepoint.siteId).asStr.any isValidSharepointSiteId &&
        !scope.sharepoint.listIds.isEmpty)) = true := by
    rw [asStr_optionalStr]
    simpa using or_and_left.mpr ⟨h.sharepoint.site.selected, h.sharepoint.complete⟩
  have hDisabled : (scope.sharepoint.enabled || ((optionalStr scope.sharepoint.siteId).isNone &&
      scope.sharepoint.listIds.isEmpty)) = true := by
    rcases h.sharepoint.site.absent with hEnabled | hNone
    · rw [hEnabled, Bool.true_or]
    · simpa [hNone, optionalStr, Value.isNone] using h.sharepoint.disabled
  have hTenant : (Value.str scope.tenantId).asStr.filter isGuid = some scope.tenantId :=
    Option.filter_eq_some_iff.mpr ⟨rfl, h.tenant.1⟩
  refine (ok_bind rfl).trans ((if_pos rfl).trans ?_)
  refine map_eq_ok.mpr ⟨scope, ?_, rfl⟩
  refine (ok_bind (narrow_eq_ok.mpr hTenant)).trans ?_
  refine (ok_bind rfl).trans ?_
  refine (ok_bind (uniqueIds_planner h.planIds)).trans ?_
  refine (ok_bind rfl).trans ?_
  refine (ok_bind rfl).trans ?_
  refine (ensure_bind (by simpa using ⟨h.plans, h.read⟩)).trans ?_
  refine (ok_bind rfl).trans ?_
  refine (ok_bind (uniqueIds_sharepoint h.sharepoint.listIds)).trans ?_
  refine (ok_bind rfl).trans ?_
  refine (ensure_bind hSelected).trans ?_
  refine (ensure_bind hDisabled).trans ?_
  change Except.ok { scope with
    tenantId := scope.tenantId.lower
    sharepoint := { scope.sharepoint with
      siteId := (optionalStr scope.sharepoint.siteId).asStr } } = _
  rw [asStr_optionalStr, ← h.tenant.2]

/-- A version 2 scope is accepted part by part. -/
structure PartsAccepted (value : Dict) (scope : ProfileScopeV2) : Prop where
  tenant : canonicalUuid "Microsoft Graph tenant" (value.get "tenant_id") = .ok scope.tenantId
  workspace : canonicalUuid "Microsoft Graph workspace" (value.get "workspace_id") =
    .ok scope.workspaceId
  planner : validatePlannerScope (value.get "planner") true = .ok scope.planner
  sharepoint : validateSharepointV2Scope (value.get "sharepoint") = .ok scope.sharepoint
  todo : validateTodoScope (value.get "todo") = .ok scope.todo
  calendar : validateCalendarScope (value.get "calendar") = .ok scope.calendar
  mail : validateMailScope (value.get "mail") = .ok scope.mail

theorem validateV2ProfileScope_parts {value : Dict} {scope : ProfileScopeV2}
    (h : validateV2ProfileScope value = .ok scope) : PartsAccepted value scope := by
  obtain ⟨tenantId, hTenant, h⟩ := except_bind_eq_ok.mp h
  obtain ⟨workspaceId, hWorkspace, h⟩ := except_bind_eq_ok.mp h
  obtain ⟨_, -, h⟩ := except_bind_eq_ok.mp h
  obtain ⟨planner, hPlanner, h⟩ := except_bind_eq_ok.mp h
  obtain ⟨sharepoint, hSharepoint, h⟩ := except_bind_eq_ok.mp h
  obtain ⟨todo, hTodo, h⟩ := except_bind_eq_ok.mp h
  obtain ⟨calendar, hCalendar, h⟩ := except_bind_eq_ok.mp h
  obtain ⟨mail, hMail, h⟩ := except_bind_eq_ok.mp h
  cases h
  exact ⟨hTenant, hWorkspace, hPlanner, hSharepoint, hTodo, hCalendar, hMail⟩

theorem validateV2ProfileScope_valid {value : Dict} {scope : ProfileScopeV2}
    (h : validateV2ProfileScope value = .ok scope) : scope.Valid := by
  have hParts := validateV2ProfileScope_parts h
  exact
    { tenant := (canonicalUuid_eq_ok.mp hParts.tenant).2
      workspace := (canonicalUuid_eq_ok.mp hParts.workspace).2
      planner := validatePlannerScope_valid hParts.planner
      sharepoint := (validateSharepointV2Scope_spec hParts.sharepoint).2
      todo := (validateTodoScope_spec hParts.todo).2
      calendar := (validateCalendarScope_spec hParts.calendar).2.2
      mail := (validateMailScope_spec hParts.mail).2 }

theorem validateProfileScope_v1 {value : Value} {scope : ProfileScopeV1}
    (h : validateProfileScope value = .ok (.v1 scope)) :
    ∃ fields : Dict, value = .dict fields ∧ fields.keysAre (v1ProfileScopeFields.map text) = true ∧
      validateV1ProfileScope fields = .ok scope := by
  obtain ⟨fields, hFields, h⟩ := except_bind_eq_ok.mp h
  refine ⟨fields, Value.asDict_eq_some.mp (narrow_eq_ok.mp hFields), ?_⟩
  split at h
  next hKeys =>
    obtain ⟨found, hFound, hSame⟩ := map_eq_ok.mp h
    cases hSame
    exact ⟨hKeys, hFound⟩
  next =>
    split at h
    · obtain ⟨found, -, hSame⟩ := map_eq_ok.mp h
      cases hSame
    · cases h

theorem validateProfileScope_v2 {value : Value} {scope : ProfileScopeV2}
    (h : validateProfileScope value = .ok (.v2 scope)) :
    ∃ fields, value = .dict fields ∧ validateV2ProfileScope fields = .ok scope := by
  obtain ⟨fields, hFields, h⟩ := except_bind_eq_ok.mp h
  refine ⟨fields, Value.asDict_eq_some.mp (narrow_eq_ok.mp hFields), ?_⟩
  split at h
  · obtain ⟨found, -, hSame⟩ := map_eq_ok.mp h
    cases hSame
  · split at h
    · obtain ⟨found, hFound, hSame⟩ := map_eq_ok.mp h
      cases hSame
      exact hFound
    · cases h

theorem validateV2ProfileScope_toValue {scope : ProfileScopeV2} (h : scope.Valid) :
    validateProfileScope scope.toValue = .ok (.v2 scope) ↔
      ∀ id ∈ scope.calendar.freebusySubjects, id.length ≤ 320 := by
  rw [← validateCalendarScope_toValue h.calendar]
  constructor
  · intro hAccepted
    obtain ⟨fields, hFields, hAgain⟩ := validateProfileScope_v2 hAccepted
    cases hFields
    exact (validateV2ProfileScope_parts hAgain).calendar
  · intro hCalendar
    refine (ok_bind rfl).trans ((if_neg Bool.false_ne_true).trans ((if_pos rfl).trans ?_))
    refine map_eq_ok.mpr ⟨scope, ?_, rfl⟩
    refine (ok_bind (canonicalUuid_eq_ok.mpr ⟨rfl, h.tenant⟩)).trans ?_
    refine (ok_bind (canonicalUuid_eq_ok.mpr ⟨rfl, h.workspace⟩)).trans ?_
    refine (ensure_bind rfl).trans ?_
    refine (ok_bind (validatePlannerScope_toValue h.planner)).trans ?_
    refine (ok_bind (validateSharepointV2Scope_toValue h.sharepoint)).trans ?_
    refine (ok_bind (validateTodoScope_toValue h.todo)).trans ?_
    refine (ok_bind hCalendar).trans ?_
    exact ok_bind (validateMailScope_toValue h.mail)

/-- What the validation returns is valid. -/
theorem validateProfileScope_valid {value : Value} {scope : ProfileScope}
    (h : validateProfileScope value = .ok scope) : scope.Valid := by
  cases scope with
  | v1 scope =>
      obtain ⟨fields, -, -, hScope⟩ := validateProfileScope_v1 h
      exact validateV1ProfileScope_valid hScope
  | v2 scope =>
      obtain ⟨fields, -, hScope⟩ := validateProfileScope_v2 h
      exact validateV2ProfileScope_valid hScope

/-- A valid scope is accepted again, unchanged, when its subjects are short. -/
theorem validateProfileScope_toValue {scope : ProfileScope} (h : scope.Valid) :
    validateProfileScope scope.toValue = .ok scope ↔
      ∀ id ∈ scope.freebusySubjects, id.length ≤ 320 := by
  cases scope with
  | v1 scope => exact iff_of_true (validateV1ProfileScope_toValue h) (List.forall_mem_nil _)
  | v2 scope => exact validateV2ProfileScope_toValue h

end Profiles

section ReadBack

variable {validate : Value → Validated Str} {label : String} {ids found : List Str}

/-- Targets that are accepted come out as the check of a single one rewrites them. -/
theorem uniqueIds_texts_map {rewrite : Str → Str}
    (hRewrite : ∀ s id, validate (.str s) = .ok id → id = rewrite s)
    (h : uniqueIds validate label (texts ids) = .ok found) : found = ids.map rewrite := by
  obtain ⟨items, hSame, -, hItems, -⟩ := uniqueIds_eq_ok.mp h
  cases hSame
  rw [List.forall₂_map_left_iff] at hItems
  clear h
  induction hItems with
  | nil => rfl
  | cons hId _ ih => rw [hRewrite _ _ hId, ih, List.map_cons]

theorem uniqueIds_texts_same (hSame : ∀ s id, validate (.str s) = .ok id → id = s)
    (h : uniqueIds validate label (texts ids) = .ok found) : found = ids :=
  (uniqueIds_texts_map hSame h).trans (List.map_id ids)

theorem opaqueResourceId_same {s id : Str} (h : opaqueResourceId label (.str s) = .ok id) :
    id = s := by
  cases (opaqueResourceId_eq_ok.mp h).1
  rfl

/-- The scope as it is validated: its subjects are folded. -/
def ProfileScopeV2.folded (scope : ProfileScopeV2) : ProfileScopeV2 :=
  { scope with
    calendar :=
      { scope.calendar with freebusySubjects := scope.calendar.freebusySubjects.map casefold } }

theorem validatePlannerScope_readBack {planner found : PlannerScope}
    (h : validatePlannerScope planner.toValue true = .ok found) : found = planner := by
  obtain ⟨d, hFields, h⟩ := except_bind_eq_ok.mp h
  obtain ⟨planIds, hIds, h⟩ := except_bind_eq_ok.mp h
  obtain ⟨tasksRead, hRead, h⟩ := except_bind_eq_ok.mp h
  obtain ⟨tasksWrite, hWrite, h⟩ := except_bind_eq_ok.mp h
  obtain ⟨_, -, h⟩ := except_bind_eq_ok.mp h
  obtain ⟨_, -, h⟩ := except_bind_eq_ok.mp h
  obtain ⟨_, -, h⟩ := except_bind_eq_ok.mp h
  cases h
  cases hFields
  cases hRead
  cases hWrite
  have hSame : planIds = planner.planIds := by
    refine uniqueIds_texts_same (fun s id hId => ?_) hIds
    cases (plannerId_eq_ok.mp hId).1
    rfl
  rw [hSame]

theorem validateSharepointV2Scope_readBack {sharepoint found : SharepointScope}
    (h : validateSharepointV2Scope sharepoint.toValue = .ok found) : found = sharepoint := by
  obtain ⟨d, hFields, h⟩ := except_bind_eq_ok.mp h
  obtain ⟨enabled, hEnabled, h⟩ := except_bind_eq_ok.mp h
  obtain ⟨metadataRead, hMetadata, h⟩ := except_bind_eq_ok.mp h
  obtain ⟨_, -, h⟩ := except_bind_eq_ok.mp h
  obtain ⟨listIds, hLists, h⟩ := except_bind_eq_ok.mp h
  obtain ⟨driveIds, hDrives, h⟩ := except_bind_eq_ok.mp h
  obtain ⟨_, -, h⟩ := except_bind_eq_ok.mp h
  obtain ⟨_, -, h⟩ := except_bind_eq_ok.mp h
  cases h
  cases hFields
  cases hEnabled
  cases hMetadata
  have hLists : listIds = sharepoint.listIds := by
    refine uniqueIds_texts_same (fun s id hId => ?_) hLists
    cases (validateSharepointListId_eq_ok.mp hId).1
    rfl
  have hDrives : driveIds = sharepoint.driveIds :=
    uniqueIds_texts_same (fun _ _ => opaqueResourceId_same) hDrives
  have hSite : (optionalStr sharepoint.siteId).asStr = sharepoint.siteId := asStr_optionalStr _
  rw [hLists, hDrives]
  change SharepointScope.mk _ (optionalStr sharepoint.siteId).asStr _ _ _ = _
  rw [hSite]

theorem validateTodoScope_readBack {todo found : TodoScope}
    (h : validateTodoScope todo.toValue = .ok found) : found = todo := by
  obtain ⟨d, hFields, h⟩ := except_bind_eq_ok.mp h
  obtain ⟨taskListIds, hIds, h⟩ := except_bind_eq_ok.mp h
  obtain ⟨enabled, hEnabled, h⟩ := except_bind_eq_ok.mp h
  obtain ⟨tasksRead, hRead, h⟩ := except_bind_eq_ok.mp h
  obtain ⟨tasksWrite, hWrite, h⟩ := except_bind_eq_ok.mp h
  obtain ⟨_, -, h⟩ := except_bind_eq_ok.mp h
  obtain ⟨_, -, h⟩ := except_bind_eq_ok.mp h
  obtain ⟨_, -, h⟩ := except_bind_eq_ok.mp h
  cases h
  cases hFields
  cases hEnabled
  cases hRead
  cases hWrite
  have hSame : taskListIds = todo.taskListIds :=
    uniqueIds_texts_same (fun _ _ => opaqueResourceId_same) hIds
  rw [hSame]

theorem validateCalendarScope_readBack {calendar found : CalendarScope}
    (h : validateCalendarScope calendar.toValue = .ok found) :
    found = { calendar with freebusySubjects := calendar.freebusySubjects.map casefold } := by
  obtain ⟨d, hFields, h⟩ := except_bind_eq_ok.mp h
  obtain ⟨enabled, hEnabled, h⟩ := except_bind_eq_ok.mp h
  obtain ⟨eventsRead, hRead, h⟩ := except_bind_eq_ok.mp h
  obtain ⟨eventsWrite, hWrite, h⟩ := except_bind_eq_ok.mp h
  obtain ⟨freebusyRead, hFreebusy, h⟩ := except_bind_eq_ok.mp h
  obtain ⟨attendeesWrite, -, h⟩ := except_bind_eq_ok.mp h
  obtain ⟨calendarIds, hIds, h⟩ := except_bind_eq_ok.mp h
  obtain ⟨freebusySubjects, hSubjects, h⟩ := except_bind_eq_ok.mp h
  obtain ⟨_, -, h⟩ := except_bind_eq_ok.mp h
  obtain ⟨_, -, h⟩ := except_bind_eq_ok.mp h
  obtain ⟨_, -, h⟩ := except_bind_eq_ok.mp h
  obtain ⟨_, -, h⟩ := except_bind_eq_ok.mp h
  cases h
  cases hFields
  cases hEnabled
  cases hRead
  cases hWrite
  cases hFreebusy
  have hIds : calendarIds = calendar.calendarIds :=
    uniqueIds_texts_same (fun _ _ => opaqueResourceId_same) hIds
  have hSubjects : freebusySubjects = calendar.freebusySubjects.map casefold := by
    refine uniqueIds_texts_map (fun s id hId => ?_) hSubjects
    obtain ⟨_, hStr, -, hFolded⟩ := validateSubject_eq_ok.mp hId
    cases hStr
    exact hFolded
  rw [hIds, hSubjects]

theorem validateMailScope_readBack {mail found : MailScope}
    (h : validateMailScope mail.toValue = .ok found) : found = mail := by
  obtain ⟨d, hFields, h⟩ := except_bind_eq_ok.mp h
  obtain ⟨enabled, hEnabled, h⟩ := except_bind_eq_ok.mp h
  obtain ⟨metadataRead, hMetadata, h⟩ := except_bind_eq_ok.mp h
  obtain ⟨bodyRead, -, h⟩ := except_bind_eq_ok.mp h
  obtain ⟨draftsWrite, hDrafts, h⟩ := except_bind_eq_ok.mp h
  obtain ⟨sendEnabled, hSend, h⟩ := except_bind_eq_ok.mp h
  obtain ⟨_, -, h⟩ := except_bind_eq_ok.mp h
  obtain ⟨folderIds, hIds, h⟩ := except_bind_eq_ok.mp h
  obtain ⟨_, -, h⟩ := except_bind_eq_ok.mp h
  obtain ⟨_, -, h⟩ := except_bind_eq_ok.mp h
  obtain ⟨_, -, h⟩ := except_bind_eq_ok.mp h
  cases h
  cases hFields
  cases hEnabled
  cases hMetadata
  cases hDrafts
  cases hSend
  have hSame : folderIds = mail.folderIds :=
    uniqueIds_texts_same (fun _ _ => opaqueResourceId_same) hIds
  rw [hSame]

/-- A scope that was written out is read back as it was, with its subjects folded. -/
theorem validateProfileScope_readBack {scope : ProfileScopeV2} {found : ProfileScope}
    (h : validateProfileScope scope.toValue = .ok found) : found = .v2 scope.folded := by
  cases found with
  | v1 found =>
      obtain ⟨fields, hFields, hKeys, -⟩ := validateProfileScope_v1 h
      cases hFields
      exact absurd (show false = true from hKeys) Bool.false_ne_true
  | v2 found =>
      obtain ⟨fields, hFields, hFound⟩ := validateProfileScope_v2 h
      cases hFields
      have hParts := validateV2ProfileScope_parts hFound
      have hTenant : scope.tenantId = found.tenantId :=
        Value.str.inj (canonicalUuid_eq_ok.mp hParts.tenant).1
      have hWorkspace : scope.workspaceId = found.workspaceId :=
        Value.str.inj (canonicalUuid_eq_ok.mp hParts.workspace).1
      have hPlanner : found.planner = scope.planner := validatePlannerScope_readBack hParts.planner
      have hSharepoint : found.sharepoint = scope.sharepoint :=
        validateSharepointV2Scope_readBack hParts.sharepoint
      have hTodo : found.todo = scope.todo := validateTodoScope_readBack hParts.todo
      have hCalendar : found.calendar = { scope.calendar with
          freebusySubjects := scope.calendar.freebusySubjects.map casefold } :=
        validateCalendarScope_readBack hParts.calendar
      have hMail : found.mail = scope.mail := validateMailScope_readBack hParts.mail
      obtain ⟨tenantId, workspaceId, planner, sharepoint, todo, calendar, mail⟩ := found
      dsimp only at hTenant hWorkspace hPlanner hSharepoint hTodo hCalendar hMail
      rw [← hTenant, ← hWorkspace, hPlanner, hSharepoint, hTodo, hCalendar, hMail]
      rfl

end ReadBack

end CyreneExchange.Integrations.Graph
