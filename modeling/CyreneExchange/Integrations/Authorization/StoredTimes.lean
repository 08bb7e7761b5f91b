import CyreneExchange.General.FixedWidth
import CyreneExchange.Integrations.Authorization.Models

/-! The texts under which the store keeps moments. SQL compares them byte by
byte, so they have to sort like the moments, although `isoformat` leaves out
microseconds that are zero. -/
namespace CyreneExchange.Integrations

open FixedWidth

/-- `_dt`. -/
def Datetime.dt (value : Datetime) : Option String :=
  value.utc.map fun moment => (Datetime.ofTimestamp moment).isoformat

/-- The bytes of a text, as SQLite compares them. -/
def utf8 (s : String) : List UInt8 := s.toUTF8.data.toList

section Digits

theorem sorts_digitChar : Sorts (· < 10) Nat.digitChar := by
  have hDigits : ∀ m < 10, ∀ n < 10, Nat.digitChar m < Nat.digitChar n ↔ m < n := by decide
  exact fun m n hm hn => hDigits m hm n hn

theorem digitChar_eq_iff (m n : Nat) (hm : m < 10) (hn : n < 10) :
    Nat.digitChar m = Nat.digitChar n ↔ m = n := by
  have hDigits : ∀ m < 10, ∀ n < 10, Nat.digitChar m = Nat.digitChar n ↔ m = n := by decide
  exact hDigits m hm n hn

/-- The characters of a padded number. -/
def digits (width n : Nat) : List Char := write Nat.digitChar 10 width n

theorem toList_padded (width n : Nat) : (padded width n).toList = digits width n :=
  String.toList_ofList

@[simp] theorem length_digits (width n : Nat) : (digits width n).length = width := length_write

theorem sorts_digits (width : Nat) : Sorts (· < 10 ^ width) (digits width) :=
  sorts_write (by decide) sorts_digitChar digitChar_eq_iff width

end Digits

section Years

/-- The year of an era of 400 years, by the day of the era; years start in March. -/
def yearOfEra (dayOfEra : Nat) : Nat :=
  (dayOfEra - dayOfEra / 1460 + dayOfEra / 36524 - dayOfEra / 146096) / 365

/-- The day of its year. -/
def dayOfYear (dayOfEra : Nat) : Nat :=
  dayOfEra - (365 * yearOfEra dayOfEra + yearOfEra dayOfEra / 4 - yearOfEra dayOfEra / 100)

/-- The month of its year, from 0 for March. -/
def marchMonth (dayOfEra : Nat) : Nat := (5 * dayOfYear dayOfEra + 2) / 153

/-- The day of its month. -/
def dayOfMonth (dayOfEra : Nat) : Nat :=
  dayOfYear dayOfEra - (153 * marchMonth dayOfEra + 2) / 5 + 1

/-- Inside a century the leap days before a year are its cycles of four years. -/
theorem year_bounds {d c g i y b : Nat} (hc : c ≤ 3) (hd : 36524 * c ≤ d)
    (hd' : d < 36524 * (c + 1)) (hi : 1460 * i ≤ d) (hi' : d < 1460 * i + 1460)
    (hg : g + i = d + c) (hy : 365 * y ≤ g) (hy' : g < 365 * y + 365) (hb : 4 * b ≤ y)
    (hb' : y < 4 * b + 4) : 100 * c ≤ y ∧ y < 100 * (c + 1) ∧ b ≤ i ∧ i ≤ b + 1 := by
  have hCentury : c = 0 ∨ c = 1 ∨ c = 2 ∨ c = 3 := by omega
  rcases hCentury with rfl | rfl | rfl | rfl <;> refine ⟨?_, ?_, ?_, ?_⟩ <;> omega

variable {d d' : Nat}

/-- A year of an era starts on or before its days, and has at most 366 of them. -/
theorem yearOfEra_bounds (h : d < 146097) :
    yearOfEra d ≤ 399 ∧ 365 * yearOfEra d + yearOfEra d / 4 - yearOfEra d / 100 ≤ d ∧
      d < 365 * yearOfEra d + yearOfEra d / 4 - yearOfEra d / 100 + 366 := by
  rcases Nat.lt_or_ge d 146096 with hInside | hLast
  · have hYear : yearOfEra d = (d - d / 1460 + d / 36524) / 365 := by
      rw [yearOfEra, Nat.div_eq_of_lt hInside, Nat.sub_zero]
    have hCentury : d / 36524 ≤ 3 := by omega
    have hLeast : 36524 * (d / 36524) ≤ d := Nat.mul_div_le d 36524
    have hMost : d < 36524 * (d / 36524 + 1) := Nat.lt_mul_div_succ d (by decide)
    have hCycle : 1460 * (d / 1460) ≤ d := Nat.mul_div_le d 1460
    have hCycle' : d < 1460 * (d / 1460) + 1460 := Nat.lt_mul_div_succ d (by decide)
    have hSum : d - d / 1460 + d / 36524 + d / 1460 = d + d / 36524 := by omega
    rw [hYear]
    generalize d / 36524 = c at *
    generalize d / 1460 = i at *
    generalize d - i + c = g at *
    have hLow : 365 * (g / 365) ≤ g := Nat.mul_div_le g 365
    have hHigh : g < 365 * (g / 365) + 365 := Nat.lt_mul_div_succ g (by decide)
    generalize g / 365 = y at *
    have hFour : 4 * (y / 4) ≤ y := Nat.mul_div_le y 4
    have hFour' : y < 4 * (y / 4) + 4 := Nat.lt_mul_div_succ y (by decide)
    obtain ⟨hFirst, hBefore, hLeap, hLeap'⟩ :=
      year_bounds hCentury hLeast hMost hCycle hCycle' hSum hLow hHigh hFour hFour'
    have hHundred : y / 100 = c := by omega
    rw [hHundred]
    generalize y / 4 = b at *
    omega
  · have hEnd : d = 146096 := by omega
    subst hEnd
    decide

theorem yearOfEra_succ (h : d + 1 < 146097) : yearOfEra d ≤ yearOfEra (d + 1) := by
  unfold yearOfEra
  apply Nat.div_le_div_right
  rcases Nat.lt_or_ge (d + 1) 146096 with hInside | hLast
  · rw [Nat.div_eq_of_lt hInside, Nat.div_eq_of_lt (Nat.lt_of_succ_lt hInside)]
    omega
  · have hEnd : d = 146095 := by omega
    subst hEnd
    decide

theorem yearOfEra_mono (h : d ≤ d') (hEra : d' < 146097) : yearOfEra d ≤ yearOfEra d' := by
  induction h with
  | refl => exact Nat.le_refl _
  | step _ ih => exact (ih (Nat.lt_of_succ_lt hEra)).trans (yearOfEra_succ hEra)

/-- A later day of an era has a later year, month or day. -/
theorem date_lt (h : d < d') (hEra : d' < 146097) : yearOfEra d < yearOfEra d' ∨
    yearOfEra d = yearOfEra d' ∧ (marchMonth d < marchMonth d' ∨
      marchMonth d = marchMonth d' ∧ dayOfMonth d < dayOfMonth d') := by
  obtain ⟨-, hStart, -⟩ := yearOfEra_bounds (h.trans hEra)
  rcases (yearOfEra_mono h.le hEra).lt_or_eq with hYear | hYear
  · exact .inl hYear
  · refine .inr ⟨hYear, ?_⟩
    have hDay : dayOfYear d < dayOfYear d' := by
      unfold dayOfYear
      rw [← hYear]
      omega
    unfold dayOfMonth marchMonth
    omega

theorem date_bounds (h : d < 146097) :
    yearOfEra d ≤ 399 ∧ marchMonth d ≤ 11 ∧ dayOfMonth d ≤ 31 := by
  obtain ⟨hYear, hStart, hEnd⟩ := yearOfEra_bounds h
  have hDay : dayOfYear d ≤ 365 := by
    unfold dayOfYear
    omega
  refine ⟨hYear, ?_, ?_⟩
  · unfold marchMonth
    omega
  · unfold dayOfMonth marchMonth
    omega

end Years

section Dates

/-- The days of the years 1 to 9999. -/
def InYears (day : Int) : Prop := -719162 ≤ day ∧ day ≤ 2932896

/-- January and February count for the next year. -/
def civilMonth (month : Nat) : Nat := if month < 10 then month + 3 else month - 9

def civilYear (year month : Nat) : Nat := year + if civilMonth month ≤ 2 then 1 else 0

/-- One date comes before another. -/
def Precedes (date date' : Nat × Nat × Nat) : Prop :=
  date.1 < date'.1 ∨ date.1 = date'.1 ∧
    (date.2.1 < date'.2.1 ∨ date.2.1 = date'.2.1 ∧ date.2.2 < date'.2.2)

theorem civil_precedes {year month day year' month' day' : Nat} (hMonth : month ≤ 11)
    (hMonth' : month' ≤ 11) (h : Precedes (year, month, day) (year', month', day')) :
    Precedes (civilYear year month, civilMonth month, day)
      (civilYear year' month', civilMonth month', day') := by
  unfold Precedes civilYear civilMonth at *
  dsimp only at *
  split_ifs at * <;> omega

variable {day day' : Int}

/-- The era of a day after the start of the year 0, and its day of the era. -/
def eraOf (day : Int) : Nat := ((day + 719468) / 146097).toNat

def dayOfEra (day : Int) : Nat := ((day + 719468) % 146097).toNat

theorem dayOfEra_lt (day : Int) : dayOfEra day < 146097 := by
  unfold dayOfEra
  omega

theorem civilDate_eq (day : Int) : civilDate day =
    (civilYear (400 * eraOf day + yearOfEra (dayOfEra day)) (marchMonth (dayOfEra day)),
      civilMonth (marchMonth (dayOfEra day)), dayOfMonth (dayOfEra day)) := by
  have hEra : ((day + 719468) / 146097 * 400).toNat = 400 * eraOf day := by
    unfold eraOf
    omega
  rw [← hEra]
  rfl

theorem civilDate_precedes (h : InYears day) (h' : InYears day') (hLess : day < day') :
    Precedes (civilDate day) (civilDate day') := by
  rw [civilDate_eq, civilDate_eq]
  obtain ⟨hYear, hMonth, -⟩ := date_bounds (dayOfEra_lt day)
  obtain ⟨-, hMonth', -⟩ := date_bounds (dayOfEra_lt day')
  apply civil_precedes hMonth hMonth'
  have hEra : eraOf day < eraOf day' ∨ eraOf day = eraOf day' ∧ dayOfEra day < dayOfEra day' := by
    unfold InYears at h h'
    unfold eraOf dayOfEra
    omega
  rcases hEra with hEarlier | ⟨hSame, hLater⟩
  · left
    dsimp only
    omega
  · have hDate := date_lt hLater (dayOfEra_lt day')
    unfold Precedes
    dsimp only
    omega

theorem civilDate_bounds (h : InYears day) :
    (civilDate day).1 < 10 ^ 4 ∧ (civilDate day).2.1 < 10 ^ 2 ∧ (civilDate day).2.2 < 10 ^ 2 := by
  obtain ⟨-, hMonth, hDay⟩ := date_bounds (dayOfEra_lt day)
  refine ⟨?_, ?_, ?_⟩
  · have hLast : InYears 2932896 := ⟨by decide, by decide⟩
    have hYear : (civilDate 2932896).1 = 9999 := by decide
    rcases h.2.lt_or_eq with hBefore | rfl
    · have hPrecedes := civilDate_precedes h hLast hBefore
      unfold Precedes at hPrecedes
      omega
    · decide
  · rw [civilDate_eq]
    unfold civilMonth
    dsimp only
    split_ifs <;> omega
  · rw [civilDate_eq]
    dsimp only
    omega

/-- `_is_leap`. -/
def isLeap (year : Nat) : Bool := year % 4 == 0 && (year % 100 != 0 || year % 400 == 0)

/-- `date.toordinal`: the days before the year, before the month, and of the month. -/
def toordinal (date : Nat × Nat × Nat) : Int :=
  let before : Int := date.1 - 1
  before * 365 + before / 4 - before / 100 + before / 400 +
    ([0, 31, 59, 90, 120, 151, 181, 212, 243, 273, 304, 334].getD (date.2.1 - 1) 0 : Nat) +
    (if 2 < date.2.1 ∧ isLeap date.1 then 1 else 0) + date.2.2

theorem leapDays (year : Nat) : ((year : Int) - 1) / 4 - ((year : Int) - 1) / 100 +
    ((year : Int) - 1) / 400 + (if isLeap year then 1 else 0) =
      year / 4 - year / 100 + year / 400 := by
  unfold isLeap
  simp only [Bool.and_eq_true, Bool.or_eq_true, beq_iff_eq, bne_iff_ne]
  split <;> omega

/-- Counted from March, a leap day ends its year. -/
theorem toordinal_march (year month day : Nat) (hMonth : month ≤ 11) :
    toordinal (civilYear year month, civilMonth month, day) =
      365 * year + year / 4 - year / 100 + year / 400 - 306 + ((153 * month + 2) / 5 : Nat) +
        day := by
  have hLeap := leapDays year
  have hMonths : month = 0 ∨ month = 1 ∨ month = 2 ∨ month = 3 ∨ month = 4 ∨ month = 5 ∨
      month = 6 ∨ month = 7 ∨ month = 8 ∨ month = 9 ∨ month = 10 ∨ month = 11 := by omega
  rcases hMonths with rfl | rfl | rfl | rfl | rfl | rfl | rfl | rfl | rfl | rfl | rfl | rfl <;>
    simp [toordinal, civilMonth, civilYear] <;> omega

/-- The date of a day is the one with this ordinal. -/
theorem toordinal_civilDate (h : InYears day) : toordinal (civilDate day) = day + 719163 := by
  obtain ⟨hYear, hStart, -⟩ := yearOfEra_bounds (dayOfEra_lt day)
  obtain ⟨-, hMonth, -⟩ := date_bounds (dayOfEra_lt day)
  have hDay : (146097 * eraOf day + dayOfEra day : Int) = day + 719468 := by
    unfold InYears at h
    unfold eraOf dayOfEra
    omega
  rw [civilDate_eq, toordinal_march _ _ _ hMonth]
  unfold dayOfMonth marchMonth dayOfYear
  omega

/-- `YYYY-MM-DD`. -/
def dateChars (day : Int) : List Char :=
  digits 4 (civilDate day).1 ++ '-' :: (digits 2 (civilDate day).2.1 ++ '-' ::
    digits 2 (civilDate day).2.2)

@[simp] theorem length_dateChars : (dateChars day).length = 10 := by
  simp [dateChars]

theorem sorts_dateChars : Sorts InYears dateChars := by
  apply sorts_of_lt
  intro day day' h h' hLess
  obtain ⟨hYear, hMonth, hDay⟩ := civilDate_bounds h
  obtain ⟨hYear', hMonth', hDay'⟩ := civilDate_bounds h'
  unfold dateChars
  rw [append_lt_iff (by simp), List.cons_lt_cons_iff, append_lt_iff (by simp),
    List.cons_lt_cons_iff, sorts_digits 4 _ _ hYear hYear', (sorts_digits 4).eq_iff hYear hYear',
    sorts_digits 2 _ _ hMonth hMonth', (sorts_digits 2).eq_iff hMonth hMonth',
    sorts_digits 2 _ _ hDay hDay']
  have hPrecedes := civilDate_precedes h h' hLess
  unfold Precedes at hPrecedes
  tauto

end Dates

section Clock

/-- `HH:MM:SS` of a second of the day. -/
def secondChars (second : Nat) : List Char :=
  digits 2 (second / 3600) ++ ':' :: (digits 2 (second / 60 % 60) ++ ':' :: digits 2 (second % 60))

@[simp] theorem length_secondChars (second : Nat) : (secondChars second).length = 8 := by
  simp [secondChars]

theorem sorts_secondChars : Sorts (· < 86400) secondChars := by
  apply sorts_of_lt
  intro second second' h h' hLess
  unfold secondChars
  rw [append_lt_iff (by simp), List.cons_lt_cons_iff, append_lt_iff (by simp),
    List.cons_lt_cons_iff, sorts_digits 2 _ _ (by omega) (by omega),
    (sorts_digits 2).eq_iff (by omega) (by omega), sorts_digits 2 _ _ (by omega) (by omega),
    (sorts_digits 2).eq_iff (by omega) (by omega), sorts_digits 2 _ _ (by omega) (by omega)]
  have hLess' : second / 3600 < second' / 3600 ∨ second / 3600 = second' / 3600 ∧
      (second / 60 % 60 < second' / 60 % 60 ∨ second / 60 % 60 = second' / 60 % 60 ∧
        second % 60 < second' % 60) := by omega
  tauto

/-- The microseconds of a second, left out when they are zero, and the offset. -/
def fractionChars (microsecond : Nat) : List Char :=
  if microsecond = 0 then ['+', '0', '0', ':', '0', '0']
  else '.' :: (digits 6 microsecond ++ ['+', '0', '0', ':', '0', '0'])

/-- A whole second sorts first, as '+' comes before '.'. -/
theorem sorts_fractionChars : Sorts (· < 10 ^ 6) fractionChars := by
  apply sorts_of_lt
  intro fraction fraction' h h' hLess
  unfold fractionChars
  have hFraction' : fraction' ≠ 0 := by omega
  rw [if_neg hFraction']
  split
  · rw [List.cons_lt_cons_iff]
    exact .inl (by decide)
  · rw [List.cons_lt_cons_iff, append_lt_iff (by simp), sorts_digits 6 _ _ h h']
    exact .inr ⟨rfl, .inl hLess⟩

end Clock

section Texts

/-- The stored moments: years 1 to 9999. -/
def Storable (moment : Timestamp) : Prop := earliestMoment ≤ moment ∧ moment ≤ latestMoment

/-- The day of a stored moment and the microsecond of that day. -/
theorem storable_parts {moment : Int} (h : Storable moment) :
    InYears (moment / 86400000000) ∧ (moment % 86400000000).toNat < 86400000000 := by
  have hFirst : (-62135596800000000 : Int) ≤ moment := h.1
  have hLast : moment ≤ (253402300799999999 : Int) := h.2
  unfold InYears
  omega

theorem moment_lt_iff (a b : Int) : a < b ↔
    a / 86400000000 < b / 86400000000 ∨ a / 86400000000 = b / 86400000000 ∧
      (a % 86400000000).toNat < (b % 86400000000).toNat := by
  omega

/-- The time of day, from its microsecond. -/
def clockChars (microsecond : Nat) : List Char :=
  secondChars (microsecond / 1000000) ++ fractionChars (microsecond % 1000000)

/-- `isoformat` of a UTC moment. -/
def momentChars (moment : Timestamp) : List Char :=
  dateChars (moment / 86400000000) ++ 'T' :: clockChars (moment % 86400000000).toNat

theorem toList_clockText (microsecond : Nat) :
    (clockText microsecond true).toList ++ ['+', '0', '0', ':', '0', '0'] =
      clockChars microsecond := by
  unfold clockText clockChars secondChars fractionChars
  by_cases hWhole : microsecond % 1000000 = 0
  · simp [hWhole, toList_padded]
  · simp [hWhole, toList_padded]

theorem toList_isoformat (moment : Timestamp) :
    (Datetime.ofTimestamp moment).isoformat.toList = momentChars moment := by
  have hOffset : (clockText 0 false).toList = ['0', '0', ':', '0', '0'] := by decide
  unfold momentChars dateChars
  rw [← toList_clockText]
  simp [Datetime.isoformat, Datetime.ofTimestamp, toList_padded, hOffset]

theorem sorts_clockChars : Sorts (· < 86400000000) clockChars := by
  have hParts : ∀ microsecond : Nat, microsecond < 86400000000 →
      microsecond / 1000000 < 86400 ∧ microsecond % 1000000 < 10 ^ 6 := by
    intro microsecond h
    omega
  have hOrder : ∀ a b : Nat, a < 86400000000 → b < 86400000000 → (a < b ↔
      a / 1000000 < b / 1000000 ∨ a / 1000000 = b / 1000000 ∧ a % 1000000 < b % 1000000) := by
    intro a b _ _
    omega
  exact sorts_secondChars.append (fun microsecond => microsecond / 1000000)
    (fun microsecond => microsecond % 1000000) sorts_fractionChars
    (fun second _ => length_secondChars second) hParts hOrder

theorem sorts_momentChars : Sorts Storable momentChars :=
  sorts_dateChars.append (fun moment : Int => moment / 86400000000)
    (fun moment => (moment % 86400000000).toNat) (sorts_clockChars.cons 'T')
    (fun _ _ => length_dateChars) (fun _ h => storable_parts h) fun a b _ _ => moment_lt_iff a b

/-- A text of ASCII characters. -/
def IsAscii (chars : List Char) : Prop := ∀ c ∈ chars, c.toNat < 128

theorem utf8_of_ascii {s : String} (h : IsAscii s.toList) :
    utf8 s = s.toList.map fun c => c.val.toUInt8 := by
  have hBytes : utf8 s = s.toList.flatMap String.utf8EncodeChar := by
    unfold utf8
    rw [String.toUTF8_eq_toByteArray, ← String.utf8Encode_toList, List.utf8Encode,
      List.data_toByteArray]
  rw [hBytes, List.map_eq_flatMap]
  apply List.flatMap_congr
  intro c hc
  apply String.utf8EncodeChar_eq_singleton
  rw [Char.utf8Size_eq_one_iff, UInt32.le_iff_toNat_le]
  exact Nat.le_of_lt_succ (h c hc)

/-- ASCII texts are compared as their characters are. -/
theorem utf8_lt_iff {s t : String} (hs : IsAscii s.toList) (ht : IsAscii t.toList) :
    utf8 s < utf8 t ↔ s.toList < t.toList := by
  have hByte {c : Char} (hc : c.toNat < 128) : c.val.toUInt8.toNat = c.toNat := by
    rw [UInt32.toNat_toUInt8]
    exact Nat.mod_eq_of_lt (by unfold Char.toNat at hc; omega)
  rw [utf8_of_ascii hs, utf8_of_ascii ht]
  apply map_lt_iff
  · intro c hc d hd
    rw [UInt8.lt_iff_toNat_lt, hByte (hs c hc), hByte (ht d hd)]
    exact Iff.rfl
  · intro c hc d hd
    rw [← UInt8.toNat_inj, hByte (hs c hc), hByte (ht d hd)]
    exact Char.toNat_inj

theorem isAscii_digits (width n : Nat) : IsAscii (digits width n) := by
  have hDigits : ∀ n < 10, (Nat.digitChar n).toNat < 128 := by decide
  intro c hc
  obtain ⟨i, -, rfl⟩ := List.mem_map.mp hc
  exact hDigits _ (Nat.mod_lt _ (by decide))

theorem IsAscii.append {chars rest : List Char} (h : IsAscii chars) (hRest : IsAscii rest) :
    IsAscii (chars ++ rest) :=
  List.forall_mem_append.mpr ⟨h, hRest⟩

theorem IsAscii.cons {c : Char} {rest : List Char} (hc : c.toNat < 128) (hRest : IsAscii rest) :
    IsAscii (c :: rest) :=
  List.forall_mem_cons.mpr ⟨hc, hRest⟩

theorem isAscii_momentChars (moment : Timestamp) : IsAscii (momentChars moment) := by
  have hOffset : IsAscii ['+', '0', '0', ':', '0', '0'] := by simp [IsAscii]
  have hFraction : ∀ microsecond, IsAscii (fractionChars microsecond) := by
    intro microsecond
    unfold fractionChars
    split
    · exact hOffset
    · exact .cons (by decide) ((isAscii_digits _ _).append hOffset)
  have hTriple : ∀ (separator : Char) (width first second third : Nat), separator.toNat < 128 →
      IsAscii (digits width first ++ separator :: (digits 2 second ++ separator ::
        digits 2 third)) :=
    fun _ _ _ _ _ hSeparator => (isAscii_digits _ _).append (.cons hSeparator
      ((isAscii_digits _ _).append (.cons hSeparator (isAscii_digits _ _))))
  exact (hTriple _ _ _ _ _ (by decide)).append
    (.cons (by decide) ((hTriple _ _ _ _ _ (by decide)).append (hFraction _)))

/-- Two moments, and the texts they are stored as. -/
theorem isoformat_sorts {x y : Timestamp} (hx : Storable x) (hy : Storable y) :
    (utf8 (Datetime.ofTimestamp x).isoformat < utf8 (Datetime.ofTimestamp y).isoformat ↔ x < y) ∧
      ((Datetime.ofTimestamp x).isoformat = (Datetime.ofTimestamp y).isoformat ↔ x = y) := by
  have hAscii (moment : Timestamp) : IsAscii (Datetime.ofTimestamp moment).isoformat.toList := by
    rw [toList_isoformat]
    exact isAscii_momentChars moment
  constructor
  · rw [utf8_lt_iff (hAscii x) (hAscii y), toList_isoformat, toList_isoformat]
    exact sorts_momentChars x y hx hy
  · rw [← String.toList_inj, toList_isoformat, toList_isoformat]
    exact sorts_momentChars.eq_iff hx hy

end Texts

/-- The instant of an aware datetime whose UTC form lies in the years 1 to 9999. -/
def Datetime.Names (value : Datetime) (moment : Timestamp) : Prop :=
  ∃ offset, value.offset = some offset ∧ value.wall - offset = moment ∧ Storable moment

theorem dt_of_names {value : Datetime} {moment : Timestamp} (h : value.Names moment) :
    value.dt = some (Datetime.ofTimestamp moment).isoformat := by
  obtain ⟨offset, hAware, rfl, hYears⟩ := h
  have hUtc : value.utc = some (value.wall - offset) := by
    unfold Datetime.utc
    rw [hAware]
    exact if_pos hYears
  rw [Datetime.dt, hUtc, Option.map_some]

/-- Two aware datetimes are stored as texts that sort like their instants. -/
theorem stored_times_sort_like_time {a b : Datetime} {x y : Timestamp} (ha : a.Names x)
    (hb : b.Names y) : ∃ s t, a.dt = some s ∧ b.dt = some t ∧ (utf8 s < utf8 t ↔ x < y) ∧
      (utf8 s ≤ utf8 t ↔ x ≤ y) ∧ (s = t ↔ x = y) := by
  obtain ⟨-, -, -, hx⟩ := id ha
  obtain ⟨-, -, -, hy⟩ := id hb
  obtain ⟨hBefore, hSame⟩ := isoformat_sorts hx hy
  obtain ⟨hAfter, -⟩ := isoformat_sorts hy hx
  refine ⟨_, _, dt_of_names ha, dt_of_names hb, hBefore, ?_, hSame⟩
  rw [← List.not_lt, hAfter, not_lt]

/-- A whole second, and a microsecond later on a clock two hours ahead. -/
theorem stored_times_sort_like_time_sample : ∃ s t,
    Datetime.dt ⟨1767225600000000, some 0⟩ = some s ∧
      Datetime.dt ⟨1767232800000001, some 7200000000⟩ = some t ∧
      (utf8 s < utf8 t ↔ (1767225600000000 : Timestamp) < 1767225600000001) ∧
      (utf8 s ≤ utf8 t ↔ (1767225600000000 : Timestamp) ≤ 1767225600000001) ∧
      (s = t ↔ (1767225600000000 : Timestamp) = 1767225600000001) :=
  stored_times_sort_like_time ⟨0, rfl, rfl, by unfold Storable; decide⟩
    ⟨7200000000, rfl, rfl, by unfold Storable; decide⟩

example : Datetime.dt ⟨1767232800000001, some 7200000000⟩ =
    some "2026-01-01T00:00:00.000001+00:00" := by decide +kernel

end CyreneExchange.Integrations
