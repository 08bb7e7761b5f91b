import Mathlib
import CyreneExchange.General.CaseFolding
import CyreneExchange.Gateway.Values

/-! The texts a Graph scope is made of: identifiers in a few closed shapes, and
mail addresses that are compared without regard to case. -/
namespace CyreneExchange.Integrations.Graph
open CyreneExchange.General CyreneExchange.Gateway

section Shapes

/-- `[0-9a-fA-F]`. -/
def isHexDigit (c : CodePoint) : Bool :=
  (decide (48 ≤ c.val) && decide (c.val ≤ 57)) || (decide (65 ≤ c.val) && decide (c.val ≤ 70)) ||
    (decide (97 ≤ c.val) && decide (c.val ≤ 102))

/-- `[A-Za-z0-9]`. -/
def isAlphanumeric (c : CodePoint) : Bool :=
  (decide (48 ≤ c.val) && decide (c.val ≤ 57)) || (decide (65 ≤ c.val) && decide (c.val ≤ 90)) ||
    (decide (97 ≤ c.val) && decide (c.val ≤ 122))

/-- `re.fullmatch` of so many characters that are alphanumeric or one of these. -/
def isBounded (others : Str) (maximum : Nat) (s : Str) : Bool :=
  decide (1 ≤ s.length) && decide (s.length ≤ maximum) &&
    s.all fun c => isAlphanumeric c || others.contains c

/-- `_GUID.fullmatch`. -/
def isGuid (s : Str) : Bool :=
  decide (s.length = 36) && s.zipIdx.all fun entry =>
    if [8, 13, 18, 23].contains entry.2 then entry.1.val == 45 else isHexDigit entry.1

/-- `_PLANNER_ID.fullmatch`. -/
def isPlannerId : Str → Bool := isBounded (text "_-") 128

/-- `_OPAQUE_RESOURCE_ID.fullmatch`. -/
def isOpaqueResourceId : Str → Bool := isBounded (text "._!~+=-") 512

/-- `is_valid_sharepoint_site_id`: a host name and two GUIDs between commas. -/
def isValidSharepointSiteId (s : Str) : Bool :=
  match s.splitOn (44 : CodePoint) with
  | [host, siteCollectionId, webId] =>
      isBounded (text ".-") 255 host && isGuid siteCollectionId && isGuid webId
  | _ => false

/-- `[^\s@]`. -/
def isPlain (c : CodePoint) : Bool := !Str.isSpace c && c.val != 64

/-- `re.fullmatch(r"[^\s@]+@[^\s@]+", s)`. -/
def isAddress (s : Str) : Bool :=
  match s.dropWhile isPlain with
  | at' :: domain =>
      at'.val == 64 && !(s.takeWhile isPlain).isEmpty && !domain.isEmpty && domain.all isPlain
  | [] => false

/-- `str.casefold`. -/
def casefold (s : Str) : Str :=
  s.flatMap fun c => (unicodeFolding.fold c.val).map (Fin.ofNat 0x110000)

end Shapes

section Folding

variable {s : Str} {c d : CodePoint}

theorem mem_foldPoint (h : d ∈ (unicodeFolding.fold c.val).map (Fin.ofNat 0x110000)) :
    d.val ∈ unicodeFolding.fold c.val := by
  obtain ⟨n, hFold, rfl⟩ := List.mem_map.mp h
  have hLimit := (FoldTable.sound_fold unicodeFolding_sound hFold).2.2 c.isLt
  have hVal : (Fin.ofNat 0x110000 n).val = n := Nat.mod_eq_of_lt hLimit
  rwa [hVal]

theorem foldPoint_ne_nil (c : CodePoint) :
    (unicodeFolding.fold c.val).map (Fin.ofNat 0x110000) ≠ [] := by
  rw [ne_eq, List.map_eq_nil_iff]
  exact FoldTable.fold_ne_nil unicodeFolding_sound c.val

/-- What folding gives stays when it is folded again. -/
theorem foldPoint_fixed (h : d ∈ (unicodeFolding.fold c.val).map (Fin.ofNat 0x110000)) :
    (unicodeFolding.fold d.val).map (Fin.ofNat 0x110000) = [d] := by
  rw [FoldTable.fold_fold unicodeFolding_sound (mem_foldPoint h), List.map_singleton]
  exact congrArg List.singleton (Fin.ofNat_val_eq_self d)

theorem casefold_append (first second : Str) :
    casefold (first ++ second) = casefold first ++ casefold second :=
  List.flatMap_append

@[simp] theorem casefold_casefold (s : Str) : casefold (casefold s) = casefold s := by
  have hFixed : ∀ d ∈ casefold s,
      (unicodeFolding.fold d.val).map (Fin.ofNat 0x110000) = [d] := by
    intro d hMem
    obtain ⟨c, -, hFold⟩ := List.mem_flatMap.mp hMem
    exact foldPoint_fixed hFold
  calc casefold (casefold s)
      = (casefold s).flatMap fun d => [d] := List.flatMap_congr hFixed
    _ = casefold s := List.flatMap_singleton' _

/-- Folding shortens nothing. -/
theorem length_le_casefold (s : Str) : s.length ≤ (casefold s).length := by
  induction s with
  | nil => exact Nat.le_refl _
  | cons c cs ih =>
      have hHead := List.length_pos_iff.mpr (foldPoint_ne_nil c)
      rw [casefold, List.flatMap_cons, List.length_append, List.length_cons]
      change cs.length ≤ (casefold cs).length at ih
      unfold casefold at ih
      omega

theorem mem_plainPoints (h : Str.isSpace c = true ∨ c.val = 64) : c.val ∈ plainPoints := by
  simp only [Str.isSpace, Bool.or_eq_true, Bool.and_eq_true, decide_eq_true_eq, beq_iff_eq] at h
  simp only [plainPoints, List.mem_cons, List.not_mem_nil, or_false]
  omega

/-- Folding brings in no white space and no commercial at. -/
theorem isPlain_casefold (h : ∀ c ∈ s, isPlain c = true) : ∀ d ∈ casefold s, isPlain d = true := by
  intro d hMem
  obtain ⟨c, hC, hFold⟩ := List.mem_flatMap.mp hMem
  by_contra hNot
  have hKind : Str.isSpace d = true ∨ d.val = 64 := by
    simp only [isPlain, Bool.and_eq_true, Bool.not_eq_true', bne_iff_ne, ne_eq, not_and_or,
      Bool.not_eq_false, not_not] at hNot
    exact hNot
  have hSame : d.val = c.val :=
    (FoldTable.sound_fold unicodeFolding_sound (mem_foldPoint hFold)).2.1 (mem_plainPoints hKind)
  rw [Fin.ext hSame] at hNot
  exact hNot (h c hC)

theorem isAddress_iff : isAddress s = true ↔ ∃ mailbox domain : Str,
    s = mailbox ++ (64 : CodePoint) :: domain ∧ mailbox ≠ [] ∧ domain ≠ [] ∧
      (∀ c ∈ mailbox, isPlain c = true) ∧ ∀ c ∈ domain, isPlain c = true := by
  constructor
  · intro h
    have hSplit : s.takeWhile isPlain ++ s.dropWhile isPlain = s := List.takeWhile_append_dropWhile
    unfold isAddress at h
    cases hRest : s.dropWhile isPlain with
    | nil => simp [hRest] at h
    | cons at' domain =>
        rw [hRest] at h hSplit
        simp only [Bool.and_eq_true, beq_iff_eq, Bool.not_eq_true', List.isEmpty_eq_false_iff,
          List.all_eq_true] at h
        obtain ⟨⟨⟨hAt, hMailbox⟩, hDomain⟩, hPlain⟩ := h
        have hSame : at' = (64 : CodePoint) := Fin.ext hAt
        subst hSame
        exact ⟨_, domain, hSplit.symm, hMailbox, hDomain, fun c => List.mem_takeWhile_imp, hPlain⟩
  · rintro ⟨mailbox, domain, rfl, hMailbox, hDomain, hFirst, hSecond⟩
    have hStop : isPlain (64 : CodePoint) = false := rfl
    unfold isAddress
    rw [List.dropWhile_append_of_pos hFirst, List.takeWhile_append_of_pos hFirst,
      List.dropWhile_cons_of_neg (by simp [hStop]), List.takeWhile_cons_of_neg (by simp [hStop])]
    simpa [hMailbox, hDomain] using hSecond

/-- An address folds to an address. -/
theorem isAddress_casefold (h : isAddress s = true) : isAddress (casefold s) = true := by
  obtain ⟨mailbox, domain, rfl, hMailbox, hDomain, hFirst, hSecond⟩ := isAddress_iff.mp h
  have hAt : casefold [(64 : CodePoint)] = [64] := rfl
  have hFilled : ∀ {part : Str}, part ≠ [] → casefold part ≠ [] := by
    intro part hPart hNone
    have hLength := length_le_casefold part
    rw [hNone, List.length_nil, Nat.le_zero, List.length_eq_zero_iff] at hLength
    exact hPart hLength
  refine isAddress_iff.mpr ⟨casefold mailbox, casefold domain, ?_, hFilled hMailbox, hFilled hDomain,
    isPlain_casefold hFirst, isPlain_casefold hSecond⟩
  rw [casefold_append, ← List.singleton_append, casefold_append, hAt, List.singleton_append]

theorem not_isSpace_of_isAddress (h : isAddress s = true) : ∀ c ∈ s, Str.isSpace c = false := by
  obtain ⟨mailbox, domain, rfl, -, -, hFirst, hSecond⟩ := isAddress_iff.mp h
  have hPlain : ∀ c, isPlain c = true → Str.isSpace c = false := by
    intro c hc
    simp only [isPlain, Bool.and_eq_true, Bool.not_eq_true'] at hc
    exact hc.1
  intro c hMem
  rcases List.mem_append.mp hMem with hMem | hMem
  · exact hPlain c (hFirst c hMem)
  · rcases List.mem_cons.mp hMem with rfl | hMem
    · rfl
    · exact hPlain c (hSecond c hMem)

/-- Nothing is to strip from an address. -/
theorem strip_of_isAddress (h : isAddress s = true) : Str.strip s = s := by
  have hNone := not_isSpace_of_isAddress h
  exact Str.strip_eq_self (fun c hc => hNone c (List.mem_of_mem_head? hc))
    fun c hc => hNone c (List.mem_of_getLast? hc)

end Folding

section Guids

variable {s : Str} {c : CodePoint}

theorem lowerChar_of_hexDigit (h : isHexDigit c = true) :
    isHexDigit (Str.lowerChar c) = true ∧ Str.lowerChar (Str.lowerChar c) = Str.lowerChar c := by
  simp only [isHexDigit, Bool.or_eq_true, Bool.and_eq_true, decide_eq_true_eq] at h ⊢
  by_cases hUpper : 65 ≤ c.val ∧ c.val ≤ 90
  · have hLower : Str.lowerChar c = ⟨c.val + 32, by omega⟩ := by rw [Str.lowerChar, dif_pos hUpper]
    rw [hLower, Str.lowerChar, dif_neg (by dsimp only; omega), if_neg (by dsimp only; omega)]
    dsimp only
    exact ⟨by omega, rfl⟩
  · have hSame : Str.lowerChar c = c := by rw [Str.lowerChar, dif_neg hUpper, if_neg (by omega)]
    rw [hSame, hSame]
    exact ⟨h, rfl⟩

/-- The lower case of a GUID is a GUID in lower case. -/
theorem isGuid_lower (h : isGuid s = true) : isGuid s.lower = true ∧ s.lower.lower = s.lower := by
  have hKept : ∀ c : CodePoint, c.val = 45 → Str.lowerChar c = c := by
    rintro ⟨n, hn⟩ rfl
    rfl
  simp only [isGuid, Bool.and_eq_true, decide_eq_true_eq, List.all_eq_true] at h ⊢
  obtain ⟨hLength, hPlaces⟩ := h
  refine ⟨⟨by rw [Str.lower, List.length_map, hLength], ?_⟩, ?_⟩
  · intro entry hMem
    rw [Str.lower, List.zipIdx_map] at hMem
    obtain ⟨⟨c, index⟩, hEntry, rfl⟩ := List.mem_map.mp hMem
    have hPlace := hPlaces _ hEntry
    dsimp only [Prod.map, id] at hPlace ⊢
    by_cases hDash : [8, 13, 18, 23].contains index = true
    · rw [if_pos hDash] at hPlace ⊢
      rw [hKept c (beq_iff_eq.mp hPlace)]
      exact hPlace
    · rw [if_neg hDash] at hPlace ⊢
      exact (lowerChar_of_hexDigit hPlace).1
  · rw [Str.lower, Str.lower, List.map_map]
    refine List.map_congr_left fun c hMem => ?_
    obtain ⟨index, hIndex, rfl⟩ := List.mem_iff_getElem.mp hMem
    have hPlace := hPlaces (s[index], index) (by simp [List.mem_zipIdx_iff_getElem?, hIndex])
    dsimp only at hPlace
    split at hPlace
    · have hSame := hKept _ (beq_iff_eq.mp hPlace)
      rw [Function.comp_apply, hSame, hSame]
    · exact (lowerChar_of_hexDigit hPlace).2

end Guids

end CyreneExchange.Integrations.Graph
