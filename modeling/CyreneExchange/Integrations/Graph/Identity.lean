import CyreneExchange.Integrations.Graph.Valid

/-! Who a Microsoft profile belongs to: UUIDs as Python reads and writes them, and
the tenant and the object that a verified principal stands for. -/
namespace CyreneExchange.Integrations.Graph
open CyreneExchange.General CyreneExchange.Gateway

section Uuids

/-- `s.replace(needle, "")`, with so many characters of a match still to drop. -/
def removeFrom (needle : Str) : Nat → Str → Str
  | _, [] => []
  | skip + 1, _ :: rest => removeFrom needle skip rest
  | 0, c :: rest =>
      if needle.isPrefixOf (c :: rest) then removeFrom needle (needle.length - 1) rest
      else c :: removeFrom needle 0 rest

/-- The zeros of the decimal digits of Unicode. -/
def decimalZeros : List Nat :=
  [48, 1632, 1776, 1984, 2406, 2534, 2662, 2790, 2918, 3046, 3174, 3302, 3430, 3558, 3664, 3792,
    3872, 4160, 4240, 6112, 6160, 6470, 6608, 6784, 6800, 6992, 7088, 7232, 7248, 42528, 43216,
    43264, 43472, 43504, 43600, 44016, 65296, 66720, 68912, 69734, 69872, 69942, 70096, 70384,
    70736, 70864, 71248, 71360, 71472, 71904, 72016, 72784, 73040, 73120, 73552, 92768, 92864,
    93008, 120782, 120792, 120802, 120812, 120822, 123200, 123632, 124144, 125264, 130032]

/-- A character as `int` takes it: any decimal digit and any space has an ASCII form. -/
def intChar (c : CodePoint) : Option CodePoint :=
  if c.val < 127 then some c
  else if Str.isSpace c then some 32
  else (decimalZeros.find? fun start => decide (start ≤ c.val) && decide (c.val < start + 10)).map
    fun start => Fin.ofNat 0x110000 (48 + (c.val - start))

def isAsciiSpace (c : CodePoint) : Bool :=
  (decide (9 ≤ c.val) && decide (c.val ≤ 13)) || c.val == 32

/-- A plus sign in front. A minus sign cannot occur in what a UUID reads. -/
def dropSign (s : Str) : Str := if s.head? = some (43 : CodePoint) then s.tail else s

/-- `0x` in front, with an underscore after it. -/
def dropBase : Str → Str
  | first :: x :: rest =>
      if first.val = 48 ∧ (x.val = 120 ∨ x.val = 88) then
        if rest.head? = some (95 : CodePoint) then rest.tail else rest
      else first :: x :: rest
  | short => short

/-- `int(s, 16)`, as its digits: single underscores may stand between them. -/
def hexDigits (s : Str) : Option Str :=
  let digits := dropBase (dropSign ((s.filterMap intChar).dropWhile isAsciiSpace))
  let isDigit (c : CodePoint) : Bool := isHexDigit c || c.val == 95
  let body := digits.takeWhile isDigit
  if s.all (fun c => (intChar c).isSome) && (digits.dropWhile isDigit).all isAsciiSpace &&
      (body.splitOn (95 : CodePoint)).all fun part => !part.isEmpty then
    some (body.filter isHexDigit)
  else none

/-- Hyphens where a UUID has them. -/
def hyphenate (digits : Str) : Str :=
  digits.take 8 ++ (45 : CodePoint) :: ((digits.drop 8).take 4 ++ (45 : CodePoint) ::
    ((digits.drop 12).take 4 ++ (45 : CodePoint) :: ((digits.drop 16).take 4 ++
      (45 : CodePoint) :: digits.drop 20)))

/-- `str.strip("{}")`. -/
def stripBraces (s : Str) : Str :=
  let isBrace (c : CodePoint) : Bool := c.val == 123 || c.val == 125
  ((s.dropWhile isBrace).reverse.dropWhile isBrace).reverse

/-- `str(UUID(s))`, or None for the ValueError. The number is kept as its digits. -/
def uuidText (s : Str) : Option Str :=
  let hex := (stripBraces (removeFrom (text "uuid:") 0 (removeFrom (text "urn:") 0 s))).filter
    fun c => c.val != 45
  if hex.length = 32 then
    (hexDigits hex).map fun digits =>
      hyphenate (List.replicate (32 - digits.length) (48 : CodePoint) ++ digits.lower)
  else none

end Uuids

section Principals

/-- What Microsoft profiles read of an `IntegrationPrincipal`. -/
structure MicrosoftPrincipal where
  issuer : Str
  subject : Str
  organizationId : Str
  workspaceId : Str
deriving DecidableEq, Repr

/-- The issuer of a Microsoft tenant. -/
def tenantIssuer (tenantId : Str) : Str :=
  text "https://login.microsoftonline.com/" ++ tenantId ++ text "/v2.0"

/-- The tenant that stands in a Microsoft issuer, for a shape of tenants of 36 characters. -/
def issuerTenant (isTenant : Str → Bool) (issuer : Str) : Option Str :=
  let tenantId := (issuer.drop (text "https://login.microsoftonline.com/").length).take 36
  if issuer = tenantIssuer tenantId ∧ isTenant tenantId = true then some tenantId else none

/-- `[0-9a-f]{8}-[0-9a-f]{4}-[0-9a-f]{4}-[0-9a-f]{4}-[0-9a-f]{12}`. -/
def isLowerGuid (s : Str) : Bool := isGuid s && decide (s = s.lower)

/-- `microsoft_identity_for_principal`: the tenant, the object and the external subject. -/
def microsoftIdentityForPrincipal (principal : MicrosoftPrincipal) :
    Validated (Str × Str × Str) := do
  let tenantId ← narrow (issuerTenant isLowerGuid principal.issuer)
    "Microsoft profiles require the canonical Entra tenant issuer"
  let objectId ← narrow (uuidText principal.subject)
    "Microsoft profiles require a canonical Entra object ID subject"
  ensure (principal.subject = objectId)
    "Microsoft profiles require a lowercase canonical Entra object ID"
  pure (tenantId, objectId, tenantId ++ text ":" ++ objectId)

/-- `require_microsoft_profile_actor`. -/
def requireMicrosoftProfileActor (principal : MicrosoftPrincipal) (externalSubject : Value)
    (tenantId : Str) : Validated (Str × Str × Str) := do
  let (actorTenant, objectId, actorSubject) ← microsoftIdentityForPrincipal principal
  ensure (externalSubject.asStr = some actorSubject)
    "Microsoft profile belongs to a different Entra actor"
  ensure (tenantId = actorTenant) "Microsoft profile belongs to a different Entra tenant"
  pure (actorTenant, objectId, actorSubject)

end Principals

section Hyphens

variable {s digits : Str}

/-- What `isGuid` asks of a character at its place. -/
theorem isGuid_eq (s : Str) : isGuid s = (decide (s.length = 36) && s.zipIdx.all fun entry =>
    if [8, 13, 18, 23].contains entry.2 then entry.1.val == 45 else isHexDigit entry.1) := rfl

/-- Between the hyphens stand digits. -/
theorem all_group {group : Str} {start : Nat}
    (h : ∀ index, start ≤ index → index < start + group.length →
      [8, 13, 18, 23].contains index = false) :
    ((group.zipIdx start).all fun entry =>
      if [8, 13, 18, 23].contains entry.2 then entry.1.val == 45 else isHexDigit entry.1) =
        group.all isHexDigit := by
  induction group generalizing start with
  | nil => rfl
  | cons c rest ih =>
      rw [List.length_cons] at h
      rw [List.zipIdx_cons, List.all_cons, List.all_cons,
        ih fun index hLow hHigh => h index (by omega) (by omega)]
      dsimp only
      rw [h start (Nat.le_refl _) (by omega), if_neg Bool.false_ne_true]

/-- A GUID is its five groups of digits. -/
theorem isGuid_groups {a b c d e : Str} (hA : a.length = 8) (hB : b.length = 4)
    (hC : c.length = 4) (hD : d.length = 4) (hE : e.length = 12) :
    isGuid (a ++ (45 : CodePoint) :: (b ++ (45 : CodePoint) :: (c ++ (45 : CodePoint) ::
      (d ++ (45 : CodePoint) :: e)))) = (a ++ b ++ c ++ d ++ e).all isHexDigit := by
  have hGroup : ∀ (group : Str) (start : Nat),
      (start, group.length) ∈ [(0, 8), (9, 4), (14, 4), (19, 4), (24, 12)] →
        ((group.zipIdx start).all fun entry => if [8, 13, 18, 23].contains entry.2
          then entry.1.val == 45 else isHexDigit entry.1) = group.all isHexDigit := by
    intro group start hMem
    refine all_group fun index hLow hHigh => ?_
    simp only [List.mem_cons, Prod.mk.injEq, List.not_mem_nil, or_false] at hMem
    simp only [List.contains_eq_mem, List.mem_cons, List.not_mem_nil, or_false,
      decide_eq_false_iff_not]
    omega
  have hLength : (a ++ (45 : CodePoint) :: (b ++ (45 : CodePoint) :: (c ++ (45 : CodePoint) ::
      (d ++ (45 : CodePoint) :: e)))).length = 36 := by
    simp only [List.length_append, List.length_cons, hA, hB, hC, hD, hE]
  rw [isGuid_eq, hLength]
  simp only [List.zipIdx_append, List.zipIdx_cons, List.all_append, List.all_cons, hA, hB, hC, hD,
    Nat.zero_add, Nat.reduceAdd]
  rw [hGroup a 0 (by simp [hA]), hGroup b 9 (by simp [hB]), hGroup c 14 (by simp [hC]),
    hGroup d 19 (by simp [hD]), hGroup e 24 (by simp [hE])]
  simp [Bool.and_assoc]

/-- The groups of the digits, put together again. -/
theorem groups_eq (digits : Str) : digits.take 8 ++ (digits.drop 8).take 4 ++
    (digits.drop 12).take 4 ++ (digits.drop 16).take 4 ++ digits.drop 20 = digits := by
  have hJoin : ∀ start : Nat, (digits.drop start).take 4 ++ digits.drop (start + 4) =
      digits.drop start := by
    intro start
    rw [← List.drop_drop, List.take_append_drop]
  rw [List.append_assoc, hJoin 16, List.append_assoc, hJoin 12, List.append_assoc, hJoin 8,
    List.take_append_drop]

theorem isGuid_hyphenate (h : digits.length = 32) :
    isGuid (hyphenate digits) = digits.all isHexDigit := by
  rw [hyphenate, isGuid_groups, groups_eq]
  all_goals simp [h]

theorem hyphenate_groups {a b c d e : Str} (hA : a.length = 8) (hB : b.length = 4)
    (hC : c.length = 4) (hD : d.length = 4) :
    hyphenate (a ++ b ++ c ++ d ++ e) = a ++ (45 : CodePoint) :: (b ++ (45 : CodePoint) ::
      (c ++ (45 : CodePoint) :: (d ++ (45 : CodePoint) :: e))) := by
  simp [hyphenate, List.drop_append, List.drop_eq_nil_of_le, hA, hB, hC, hD]

/-- Every GUID is the hyphenated form of its digits. -/
theorem exists_hyphenate_of_isGuid (h : isGuid s = true) :
    ∃ digits : Str, digits.length = 32 ∧ digits.all isHexDigit = true ∧ s = hyphenate digits := by
  have hParts := h
  simp only [isGuid, Bool.and_eq_true, decide_eq_true_eq, List.all_eq_true] at hParts
  obtain ⟨hLength, hPlaces⟩ := hParts
  have hHyphen : ∀ place ∈ [8, 13, 18, 23], s.drop place = (45 : CodePoint) :: s.drop (place + 1) := by
    intro place hMem
    have hIndex : place < s.length := by
      simp only [List.mem_cons, List.not_mem_nil, or_false] at hMem
      omega
    have hPlace := hPlaces (s[place], place) (by simp [List.mem_zipIdx_iff_getElem?, hIndex])
    rw [if_pos (by simpa using hMem)] at hPlace
    have hSame : s[place] = (45 : CodePoint) := Fin.ext (beq_iff_eq.mp hPlace)
    rw [List.drop_eq_getElem_cons hIndex, hSame]
  have hJoin : ∀ start : Nat, s.drop start = (s.drop start).take 4 ++ s.drop (start + 4) := by
    intro start
    rw [← List.drop_drop, List.take_append_drop]
  have hSplit : s = s.take 8 ++ (45 : CodePoint) :: ((s.drop 9).take 4 ++ (45 : CodePoint) ::
      ((s.drop 14).take 4 ++ (45 : CodePoint) :: ((s.drop 19).take 4 ++ (45 : CodePoint) ::
        s.drop 24))) := by
    rw [← hHyphen 23 (by decide), ← hJoin 19, ← hHyphen 18 (by decide), ← hJoin 14,
      ← hHyphen 13 (by decide), ← hJoin 9, ← hHyphen 8 (by decide), List.take_append_drop]
  refine ⟨s.take 8 ++ (s.drop 9).take 4 ++ (s.drop 14).take 4 ++ (s.drop 19).take 4 ++ s.drop 24,
    ?_, ?_, ?_⟩
  · simp [hLength]
  · rw [← isGuid_groups, ← hSplit, h]
    all_goals simp [hLength]
  · rw [hyphenate_groups, ← hSplit]
    all_goals simp [hLength]

theorem filter_hyphenate (h : digits.all isHexDigit = true) :
    (hyphenate digits).filter (fun c => c.val != 45) = digits := by
  have hKept : digits.filter (fun c => c.val != 45) = digits := by
    rw [List.filter_eq_self]
    intro c hMem
    have hDigit := List.all_eq_true.mp h c hMem
    simp only [isHexDigit, Bool.or_eq_true, Bool.and_eq_true, decide_eq_true_eq] at hDigit
    simp only [bne_iff_ne, ne_eq]
    omega
  conv_rhs => rw [← hKept, ← groups_eq digits]
  simp [hyphenate, List.filter_append]

theorem lower_hyphenate (digits : Str) : (hyphenate digits).lower = hyphenate digits.lower := by
  have hHyphen : Str.lowerChar (45 : CodePoint) = 45 := rfl
  simp only [hyphenate, Str.lower, List.map_append, List.map_cons, List.map_take, List.map_drop,
    hHyphen]

end Hyphens

section Reading

variable {s id : Str}

theorem dropSign_sublist (s : Str) : (dropSign s).Sublist s := by
  unfold dropSign
  split
  · exact List.tail_sublist s
  · exact List.Sublist.refl s

theorem dropBase_sublist (s : Str) : (dropBase s).Sublist s := by
  unfold dropBase
  split
  next first x rest =>
    have hRest : rest.Sublist (first :: x :: rest) :=
      (List.sublist_cons_self x rest).trans (List.sublist_cons_self first _)
    split
    · split
      · exact (List.tail_sublist rest).trans hRest
      · exact hRest
    · exact List.Sublist.refl _
  next => exact List.Sublist.refl _

/-- What is read are digits, no more than there are characters. -/
theorem hexDigits_digits {digits : Str} (h : hexDigits s = some digits) :
    digits.all isHexDigit = true ∧ digits.length ≤ s.length := by
  unfold hexDigits at h
  dsimp only at h
  split at h
  · cases h
    refine ⟨List.all_eq_true.mpr fun c hMem => (List.mem_filter.mp hMem).2, ?_⟩
    refine Nat.le_trans (List.Sublist.length_le ?_) (List.length_filterMap_le intChar s)
    exact List.filter_sublist.trans ((List.takeWhile_sublist _).trans ((dropBase_sublist _).trans
      ((dropSign_sublist _).trans (List.dropWhile_sublist _))))
  · cases h

/-- What Python writes of a UUID is canonical. -/
theorem uuidText_canonical (h : uuidText s = some id) : IsCanonicalGuid id := by
  unfold uuidText at h
  dsimp only at h
  split at h
  next hLength =>
    obtain ⟨digits, hDigits, rfl⟩ := Option.map_eq_some_iff.mp h
    obtain ⟨hHex, hShort⟩ := hexDigits_digits hDigits
    rw [hLength] at hShort
    have hAll : ∀ c ∈ List.replicate (32 - digits.length) (48 : CodePoint) ++ digits.lower,
        isHexDigit c = true ∧ Str.lowerChar c = c := by
      intro c hMem
      rcases List.mem_append.mp hMem with hPad | hDigit
      · rw [List.eq_of_mem_replicate hPad]
        exact ⟨rfl, rfl⟩
      · obtain ⟨d, hD, rfl⟩ := List.mem_map.mp hDigit
        exact lowerChar_of_hexDigit (List.all_eq_true.mp hHex d hD)
    have hFull : (List.replicate (32 - digits.length) (48 : CodePoint) ++ digits.lower).length =
        32 := by
      rw [List.length_append, List.length_replicate, Str.lower, List.length_map]
      omega
    refine ⟨?_, ?_⟩
    · rw [isGuid_hyphenate hFull]
      exact List.all_eq_true.mpr fun c hMem => (hAll c hMem).1
    · rw [lower_hyphenate]
      have hLower := List.map_congr_left fun c hMem => (hAll c hMem).2
      exact congrArg hyphenate (hLower.trans (List.map_id' _)).symm
  next => cases h

theorem removeFrom_eq_self {c : CodePoint} {needle : Str} (h : c ∉ s) :
    removeFrom (c :: needle) 0 s = s := by
  induction s with
  | nil => rfl
  | cons d rest ih =>
      rw [List.mem_cons, not_or] at h
      have hNo : (c :: needle).isPrefixOf (d :: rest) = false := by
        rw [List.isPrefixOf_cons_cons, beq_eq_false_iff_ne.mpr h.1, Bool.false_and]
      rw [removeFrom, hNo, if_neg Bool.false_ne_true, ih h.2]

theorem stripBraces_eq_self (h : ∀ c ∈ s, c.val ≠ 123 ∧ c.val ≠ 125) : stripBraces s = s := by
  have hKept : ∀ part : Str, (∀ c ∈ part, c.val ≠ 123 ∧ c.val ≠ 125) →
      (part.dropWhile fun c => c.val == 123 || c.val == 125) = part := by
    intro part hPart
    refine List.dropWhile_eq_self_iff.mpr fun hFilled => ?_
    have hHead := hPart part[0] (List.getElem_mem hFilled)
    simpa using hHead
  have hBack : ∀ c ∈ s.reverse, c.val ≠ 123 ∧ c.val ≠ 125 :=
    fun c hMem => h c (List.mem_reverse.mp hMem)
  unfold stripBraces
  dsimp only
  rw [hKept s h, hKept s.reverse hBack, List.reverse_reverse]

theorem hexDigit_bounds {c : CodePoint} (h : isHexDigit c = true) :
    48 ≤ c.val ∧ c.val ≤ 102 ∧ c.val ≠ 88 ∧ c.val ≠ 95 := by
  simp only [isHexDigit, Bool.or_eq_true, Bool.and_eq_true, decide_eq_true_eq] at h
  omega

/-- The digits of a UUID are read as they are. -/
theorem hexDigits_eq_self (hDigits : s.all isHexDigit = true) (hFilled : s ≠ []) :
    hexDigits s = some s := by
  rw [List.all_eq_true] at hDigits
  have hBounds : ∀ c ∈ s, 48 ≤ c.val ∧ c.val ≤ 102 ∧ c.val ≠ 88 ∧ c.val ≠ 95 :=
    fun c hMem => hexDigit_bounds (hDigits c hMem)
  have hChar : ∀ c ∈ s, intChar c = some c := by
    intro c hMem
    have := hBounds c hMem
    rw [intChar, if_pos (by omega)]
  have hRead : s.filterMap intChar = s := (List.filterMap_congr hChar).trans (List.filterMap_some)
  have hSpace : s.dropWhile isAsciiSpace = s := by
    refine List.dropWhile_eq_self_iff.mpr fun hLong => ?_
    have := hBounds s[0] (List.getElem_mem hLong)
    simp only [isAsciiSpace, Bool.or_eq_true, Bool.and_eq_true, decide_eq_true_eq, beq_iff_eq]
    omega
  have hSign : dropSign s = s := by
    refine if_neg fun hHead => ?_
    have := hBounds 43 (List.mem_of_head? hHead)
    omega
  have hBase : dropBase s = s := by
    unfold dropBase
    split
    next first x rest =>
      have := hBounds x (by simp)
      rw [if_neg (by omega)]
    next => rfl
  have hIn : ∀ c ∈ s, (isHexDigit c || c.val == 95) = true := by
    intro c hMem
    rw [hDigits c hMem, Bool.true_or]
  have hSplit : s.splitOn (95 : CodePoint) = [s] :=
    List.splitOn_eq_singleton fun hMem => (hBounds 95 hMem).2.2.2 rfl
  have hAll : s.all (fun c => (intChar c).isSome) = true := by
    refine List.all_eq_true.mpr fun c hMem => ?_
    rw [hChar c hMem]
    rfl
  unfold hexDigits
  dsimp only
  rw [hRead, hSpace, hSign, hBase, List.takeWhile_eq_self_iff.mpr hIn,
    List.dropWhile_eq_nil_iff.mpr hIn, hSplit, hAll, List.filter_eq_self.mpr hDigits]
  simp [hFilled]

/-- A canonical UUID reads as itself. -/
theorem uuidText_of_canonical (h : IsCanonicalGuid s) : uuidText s = some s := by
  obtain ⟨hGuid, hLower⟩ := h
  obtain ⟨digits, hLength, hHex, rfl⟩ := exists_hyphenate_of_isGuid hGuid
  have hRange : ∀ c ∈ hyphenate digits, 45 ≤ c.val ∧ c.val ≤ 102 := by
    intro c hMem
    by_cases hHyphen : c.val = 45
    · omega
    · have hDigit : c ∈ (hyphenate digits).filter fun c => c.val != 45 :=
        List.mem_filter.mpr ⟨hMem, bne_iff_ne.mpr hHyphen⟩
      rw [filter_hyphenate hHex] at hDigit
      have := hexDigit_bounds (List.all_eq_true.mp hHex c hDigit)
      omega
  have hLowerHex : digits.lower.all isHexDigit = true := by
    refine List.all_eq_true.mpr fun c hMem => ?_
    obtain ⟨d, hD, rfl⟩ := List.mem_map.mp hMem
    exact (lowerChar_of_hexDigit (List.all_eq_true.mp hHex d hD)).1
  have hDigits : digits.lower = digits := by
    rw [← filter_hyphenate hLowerHex, ← lower_hyphenate, ← hLower, filter_hyphenate hHex]
  have hUrn : removeFrom (text "urn:") 0 (hyphenate digits) = hyphenate digits := by
    refine @removeFrom_eq_self _ 117 (text "rn:") fun hMem => ?_
    exact absurd (hRange 117 hMem).2 (by decide)
  have hUuid : removeFrom (text "uuid:") 0 (hyphenate digits) = hyphenate digits := by
    refine @removeFrom_eq_self _ 117 (text "uid:") fun hMem => ?_
    exact absurd (hRange 117 hMem).2 (by decide)
  have hBraces : stripBraces (hyphenate digits) = hyphenate digits := by
    refine stripBraces_eq_self fun c hMem => ?_
    have := hRange c hMem
    omega
  have hFilled : digits ≠ [] := by
    rintro rfl
    cases hLength
  unfold uuidText
  dsimp only
  rw [hUrn, hUuid, hBraces, filter_hyphenate hHex, if_pos hLength, hexDigits_eq_self hHex hFilled,
    Option.map_some, hLength, Nat.sub_self, List.replicate_zero, List.nil_append, hDigits]

/-- The canonical UUIDs are those that Python writes as it reads them. -/
theorem uuidText_eq_self : uuidText s = some s ↔ IsCanonicalGuid s :=
  ⟨uuidText_canonical, uuidText_of_canonical⟩

end Reading

section Actors

variable {principal : MicrosoftPrincipal} {tenantId : Str}

theorem isLowerGuid_eq_true {s : Str} : isLowerGuid s = true ↔ IsCanonicalGuid s := by
  rw [isLowerGuid, Bool.and_eq_true, decide_eq_true_eq, IsCanonicalGuid]

theorem length_of_isGuid {s : Str} (h : isGuid s = true) : s.length = 36 := by
  simp only [isGuid, Bool.and_eq_true, decide_eq_true_eq] at h
  exact h.1

theorem issuerTenant_eq_some {isTenant : Str → Bool} {issuer : Str}
    (hLength : isTenant tenantId = true → tenantId.length = 36) :
    issuerTenant isTenant issuer = some tenantId ↔
      issuer = tenantIssuer tenantId ∧ isTenant tenantId = true := by
  unfold issuerTenant
  dsimp only
  constructor
  · intro h
    split at h
    next hShape =>
      cases h
      exact hShape
    next => cases h
  · rintro ⟨rfl, hTenant⟩
    have hMiddle : ((tenantIssuer tenantId).drop
        (text "https://login.microsoftonline.com/").length).take 36 = tenantId := by
      rw [tenantIssuer, List.append_assoc, List.drop_left, ← hLength hTenant, List.take_left]
    rw [hMiddle, if_pos ⟨rfl, hTenant⟩]

/-- A principal stands for a Microsoft actor when its issuer and its subject are canonical. -/
theorem microsoftIdentityForPrincipal_eq_ok {out : Str × Str × Str} :
    microsoftIdentityForPrincipal principal = .ok out ↔
      ∃ tenantId, principal.issuer = tenantIssuer tenantId ∧ IsCanonicalGuid tenantId ∧
        IsCanonicalGuid principal.subject ∧
          out = (tenantId, principal.subject, tenantId ++ text ":" ++ principal.subject) := by
  have hTenant : ∀ tenantId, issuerTenant isLowerGuid principal.issuer = some tenantId ↔
      principal.issuer = tenantIssuer tenantId ∧ IsCanonicalGuid tenantId := by
    intro tenantId
    rw [← isLowerGuid_eq_true]
    exact issuerTenant_eq_some fun h => length_of_isGuid (isLowerGuid_eq_true.mp h).1
  simp only [microsoftIdentityForPrincipal, except_bind_eq_ok, narrow_eq_ok, hTenant, ensure_eq_ok,
    decide_eq_true_eq, pure, Except.pure, Except.ok.injEq]
  constructor
  · rintro ⟨tenantId, ⟨hIssuer, hCanonical⟩, objectId, hObject, -, rfl, rfl⟩
    exact ⟨tenantId, hIssuer, hCanonical, uuidText_eq_self.mp hObject, rfl⟩
  · rintro ⟨tenantId, hIssuer, hCanonical, hSubject, rfl⟩
    exact ⟨tenantId, ⟨hIssuer, hCanonical⟩, principal.subject, uuidText_eq_self.mpr hSubject, (),
      rfl, rfl⟩

end Actors

end CyreneExchange.Integrations.Graph
