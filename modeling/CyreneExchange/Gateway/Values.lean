import Mathlib
import CyreneExchange.General.Fallible

/-! Python values as the gateway reads them from JSON and hands them on: text
that may hold lone surrogates, numbers, sequences and dictionaries. -/
namespace CyreneExchange.Gateway
open CyreneExchange.General

/-- A Unicode code point, surrogates included. -/
abbrev CodePoint := Fin 0x110000

instance codePoint_neZero : NeZero 0x110000 := ⟨by decide⟩

/-- A Python `str`. -/
abbrev Str := List CodePoint

theorem char_toNat_lt (c : Char) : c.toNat < 0x110000 := by
  rcases c.valid with hLow | ⟨-, hHigh⟩
  · exact Nat.lt_trans hLow (by decide)
  · exact hHigh

/-- The Python text behind a literal. -/
def text (s : String) : Str := s.toList.map fun c => ⟨c.toNat, char_toNat_lt c⟩

instance : Coe String Str := ⟨text⟩

namespace Str

/-- `"\ud800" <= c <= "\udfff"`: no UTF-8 text holds such a character. -/
def isSurrogate (c : CodePoint) : Bool := decide (0xd800 ≤ c.val) && decide (c.val ≤ 0xdfff)

def hasSurrogate (s : Str) : Bool := s.any isSurrogate

/-- The bytes UTF-8 spends on a character. -/
def utf8Width (c : CodePoint) : Nat :=
  if c.val < 0x80 then 1 else if c.val < 0x800 then 2 else if c.val < 0x10000 then 3 else 4

/-- `str.isspace` of one character. -/
def isSpace (c : CodePoint) : Bool :=
  (decide (9 ≤ c.val) && decide (c.val ≤ 13)) || (decide (28 ≤ c.val) && decide (c.val ≤ 32)) ||
    c.val == 0x85 || c.val == 0xa0 || c.val == 0x1680 ||
    (decide (0x2000 ≤ c.val) && decide (c.val ≤ 0x200a)) || c.val == 0x2028 || c.val == 0x2029 ||
    c.val == 0x202f || c.val == 0x205f || c.val == 0x3000

/-- `str.strip()`. -/
def strip (s : Str) : Str :=
  ((s.dropWhile isSpace).reverse.dropWhile isSpace).reverse

/-- `not s.strip()`. -/
def isBlank (s : Str) : Bool := (strip s).isEmpty

/-- `str.lower` of one character. Outside ASCII only the Kelvin sign has an ASCII
lower case; the others stay, as no reader below tells two of them apart. -/
def lowerChar (c : CodePoint) : CodePoint :=
  if h : 65 ≤ c.val ∧ c.val ≤ 90 then ⟨c.val + 32, by omega⟩
  else if c.val = 0x212a then ⟨107, by decide⟩
  else c

def lower (s : Str) : Str := s.map lowerChar

/-- `needle in s`. -/
def includes (s needle : Str) : Bool := s.tails.any fun rest => needle.isPrefixOf rest

/-- `s.startswith(lead)`. -/
def startsWith (s lead : Str) : Bool := lead.isPrefixOf s

end Str

/-- A Python `float`: a binary64 value, with its number as a rational. -/
inductive Float64 where
  | nan
  | infinity (negative : Bool)
  | negativeZero
  | number (value : ℚ)
deriving DecidableEq, Repr

namespace Float64

/-- The least magnitude `float(n)` rounds past the largest binary64 value. -/
@[irreducible] def overflowBound : Nat := 2 ^ 1024 - 2 ^ 970

/-- Round a magnitude to 53 significant bits, ties to even. -/
def roundNat (n : Nat) : Nat :=
  if n < 2 ^ 53 then n
  else
    let unit := 2 ^ (n.log2 - 52)
    let low := n / unit
    let rest := n % unit
    if 2 * rest > unit ∨ (2 * rest = unit ∧ low % 2 = 1) then (low + 1) * unit else low * unit

/-- `float(n)`; past the range it raises OverflowError. -/
def ofInt (n : Int) : Option Float64 :=
  if n.natAbs < overflowBound then
    some (.number (if 0 ≤ n then roundNat n.natAbs else -(roundNat n.natAbs : ℚ)))
  else none

/-- `low <= x <= high`. -/
def between (x : Float64) (low high : ℚ) : Bool :=
  match x with
  | .nan => false
  | .infinity _ => false
  | .negativeZero => decide (low ≤ 0) && decide (0 ≤ high)
  | .number value => decide (low ≤ value) && decide (value ≤ high)

end Float64

/-- A value decoded from JSON, or built by the gateway from such values. -/
inductive Value where
  | none
  | bool (value : Bool)
  | int (value : Int)
  | float (value : Float64)
  | str (value : Str)
  | bytes (data : List UInt8)
  | list (items : List Value)
  | tuple (items : List Value)
  | dict (entries : List (Str × Value))
deriving Repr

/-- A `dict` with string keys. -/
abbrev Dict := List (Str × Value)

namespace Dict

/-- `key in d`. -/
def has (d : Dict) (key : Str) : Bool := (d.lookup key).isSome

/-- `d.get(key, default)`. -/
def getD (d : Dict) (key : Str) (default : Value) : Value := (d.lookup key).getD default

/-- `d.get(key)`. -/
def get (d : Dict) (key : Str) : Value := d.getD key .none

/-- `d[key] = value`: a present key keeps its place. -/
def set : Dict → Str → Value → Dict
  | [], key, value => [(key, value)]
  | entry :: rest, key, value =>
      if entry.1 = key then (key, value) :: rest else entry :: set rest key value

/-- `d[key] = value` for a value that is present. -/
def setSome (d : Dict) (key : Str) : Option Value → Dict
  | some value => d.set key value
  | none => d

/-- `set(d) == keys`. -/
def keysAre (d : Dict) (keys : List Str) : Bool :=
  d.all (fun entry => keys.contains entry.1) && keys.all d.has

/-- `set(d) - allowed`, in the order of `sorted`. -/
def unknownKeys (d : Dict) (allowed : List Str) : List Str :=
  ((d.map Prod.fst).dedup.filter fun key => !allowed.contains key).insertionSort
    fun a b => ¬ b < a

end Dict

namespace Value

/-- `isinstance(value, str)`. -/
def asStr : Value → Option Str
  | .str s => some s
  | _ => Option.none

/-- `isinstance(value, Mapping)`. -/
def asDict : Value → Option Dict
  | .dict d => some d
  | _ => Option.none

/-- `isinstance(value, bool)`. -/
def asBool : Value → Option Bool
  | .bool b => some b
  | _ => Option.none

/-- `isinstance(value, Sequence)` and neither text nor bytes. -/
def asSequence : Value → Option (List Value)
  | .list items => some items
  | .tuple items => some items
  | _ => Option.none

/-- `value is None`. -/
def isNone : Value → Bool
  | .none => true
  | _ => false

mutual
/-- `hash(value)` does not raise TypeError. -/
def hashable : Value → Bool
  | .list _ => false
  | .dict _ => false
  | .tuple items => hashableItems items
  | _ => true

def hashableItems : List Value → Bool
  | [] => true
  | item :: rest => hashable item && hashableItems rest
end

mutual
/-- What `json.loads` returns. -/
def isJson : Value → Bool
  | .bytes _ => false
  | .tuple _ => false
  | .list items => jsonItems items
  | .dict entries => jsonEntries entries
  | _ => true

def jsonItems : List Value → Bool
  | [] => true
  | item :: rest => isJson item && jsonItems rest

def jsonEntries : List (Str × Value) → Bool
  | [] => true
  | (_, value) :: rest => isJson value && jsonEntries rest
end

end Value

section Lemmas

theorem text_injective {a b : String} : text a = text b ↔ a = b := by
  constructor
  · intro h
    apply String.toList_inj.mp
    refine List.map_injective_iff.mpr ?_ h
    intro c d hc
    exact Char.toNat_inj.mp (Fin.mk.inj hc)
  · rintro rfl
    rfl

@[simp] theorem text_eq_text {a b : String} : (text a = text b) ↔ a = b := text_injective

namespace Value

variable {value : Value}

@[simp] theorem asStr_eq_some {s : Str} : value.asStr = some s ↔ value = .str s := by
  cases value <;> simp [asStr]

@[simp] theorem asDict_eq_some {d : Dict} : value.asDict = some d ↔ value = .dict d := by
  cases value <;> simp [asDict]

@[simp] theorem asBool_eq_some {b : Bool} : value.asBool = some b ↔ value = .bool b := by
  cases value <;> simp [asBool]

@[simp] theorem isNone_eq_true : value.isNone = true ↔ value = .none := by
  cases value <;> simp [isNone]

end Value

namespace Str

theorem strip_eq_self {s : Str} (hHead : ∀ c ∈ s.head?, isSpace c = false)
    (hLast : ∀ c ∈ s.getLast?, isSpace c = false) : strip s = s := by
  have hFront : s.dropWhile isSpace = s := by
    cases s with
    | nil => rfl
    | cons c cs =>
        have hFirst : isSpace c = false := hHead c rfl
        simp [hFirst]
  have hBack : s.reverse.dropWhile isSpace = s.reverse := by
    cases hReverse : s.reverse with
    | nil => rfl
    | cons c cs =>
        have hFirst : isSpace c = false := hLast c (by
          rw [List.getLast?_eq_head?_reverse, hReverse]
          rfl)
        simp [hFirst]
  rw [strip, hFront, hBack, List.reverse_reverse]

theorem head?_dropWhile_isSpace (s : Str) :
    ∀ c ∈ (s.dropWhile isSpace).head?, isSpace c = false := by
  induction s with
  | nil => simp
  | cons c cs ih =>
      cases hSpace : isSpace c with
      | true => simpa [List.dropWhile_cons, hSpace] using ih
      | false => simp [hSpace]

/-- Stripping twice is stripping once. -/
@[simp] theorem strip_strip (s : Str) : strip (strip s) = strip s := by
  let front := s.dropWhile isSpace
  have hFront : ∀ c ∈ front.head?, isSpace c = false := head?_dropWhile_isSpace s
  have hPrefix : (front.reverse.dropWhile isSpace).reverse <+: front := by
    have := List.dropWhile_suffix isSpace (l := front.reverse)
    exact List.reverse_suffix.mp (by simpa using this)
  apply strip_eq_self
  · intro c hc
    obtain ⟨tail, hTail⟩ := hPrefix
    apply hFront
    rw [← hTail]
    change c ∈ (front.reverse.dropWhile isSpace).reverse.head? at hc
    cases hBody : (front.reverse.dropWhile isSpace).reverse with
    | nil => simp [hBody] at hc
    | cons d ds => simpa [hBody] using hc
  · intro c hc
    change c ∈ (front.reverse.dropWhile isSpace).reverse.getLast? at hc
    rw [List.getLast?_reverse] at hc
    exact head?_dropWhile_isSpace front.reverse c hc

end Str

namespace Dict

variable {d : Dict} {key other : Str} {value : Value}

@[simp] theorem lookup_set_self : (d.set key value).lookup key = some value := by
  induction d with
  | nil => simp [set]
  | cons entry rest ih =>
      obtain ⟨name, old⟩ := entry
      by_cases hName : name = key
      · subst hName
        simp [set]
      · have hOther : (key == name) = false := by simpa using fun h => hName h.symm
        simp [set, hName, List.lookup_cons, hOther, ih]

theorem lookup_set_of_ne (hKey : other ≠ key) : (d.set key value).lookup other = d.lookup other := by
  induction d with
  | nil =>
      have hOther : (other == key) = false := by simpa using hKey
      simp [set, List.lookup_cons, hOther]
  | cons entry rest ih =>
      obtain ⟨name, old⟩ := entry
      by_cases hName : name = key
      · subst hName
        have hOther : (other == name) = false := by simpa using hKey
        simp [set, List.lookup_cons, hOther]
      · simp [set, hName, List.lookup_cons, ih]

/-- Storing what is there changes nothing. -/
theorem set_eq_self (h : d.lookup key = some value) : d.set key value = d := by
  induction d with
  | nil => simp at h
  | cons entry rest ih =>
      obtain ⟨name, old⟩ := entry
      by_cases hName : name = key
      · subst hName
        simp only [List.lookup_cons_self, Option.some.injEq] at h
        simp [set, h]
      · have hOther : (key == name) = false := by simpa using fun h => hName h.symm
        rw [List.lookup_cons, hOther] at h
        simp [set, hName, ih h]

@[simp] theorem set_set {later : Value} : (d.set key value).set key later = d.set key later := by
  induction d with
  | nil => simp [set]
  | cons entry rest ih =>
      by_cases hKey : entry.1 = key
      · simp [set, hKey]
      · simp [set, hKey, ih]

@[simp] theorem get_set_self : (d.set key value).get key = value := by
  simp [get, getD]

theorem get_set_of_ne (hKey : other ≠ key) : (d.set key value).get other = d.get other := by
  simp [get, getD, lookup_set_of_ne hKey]

theorem has_set_of_ne (hKey : other ≠ key) : (d.set key value).has other = d.has other := by
  simp [has, lookup_set_of_ne hKey]

/-- A key that is dropped is gone. -/
theorem lookup_dropped : (d.filter fun entry => entry.1 ≠ key).lookup key = none := by
  induction d with
  | nil => rfl
  | cons entry rest ih =>
      by_cases hKey : entry.1 = key
      · rwa [List.filter_cons_of_neg (by simpa using hKey)]
      · have hOther : (key == entry.1) = false := by simpa using fun h => hKey h.symm
        rw [List.filter_cons_of_pos (by simpa using hKey), List.lookup_cons, hOther]
        exact ih

/-- The other keys stay. -/
theorem lookup_kept (hKey : other ≠ key) :
    (d.filter fun entry => entry.1 ≠ key).lookup other = d.lookup other := by
  induction d with
  | nil => rfl
  | cons entry rest ih =>
      by_cases hDropped : entry.1 = key
      · have hOther : (other == entry.1) = false := by simpa [hDropped] using hKey
        rw [List.filter_cons_of_neg (by simpa using hDropped), ih, List.lookup_cons, hOther]
      · rw [List.filter_cons_of_pos (by simpa using hDropped), List.lookup_cons,
          List.lookup_cons, ih]

theorem lookup_eq_of_get_ne (h : d.get key ≠ .none) : d.lookup key = some (d.get key) := by
  cases hLookup : d.lookup key with
  | none => simp [get, getD, hLookup] at h
  | some found => simp [get, getD, hLookup]

theorem getD_of_get_ne {default : Value} (h : d.get key ≠ .none) :
    d.getD key default = d.get key := by
  simp [getD, lookup_eq_of_get_ne h]

theorem get_of_not_has (h : d.has key = false) : d.get key = .none := by
  cases hLookup : d.lookup key with
  | none => simp [get, getD, hLookup]
  | some found => simp [has, hLookup] at h

theorem lookup_of_has (h : d.has key = true) : d.lookup key = some (d.get key) := by
  cases hLookup : d.lookup key with
  | none => simp [has, hLookup] at h
  | some found => simp [get, getD, hLookup]

theorem unknownKeys_eq_nil {allowed : List Str} :
    d.unknownKeys allowed = [] ↔ ∀ entry ∈ d, entry.1 ∈ allowed := by
  rw [unknownKeys, List.eq_nil_iff_length_eq_zero, List.length_insertionSort,
    List.length_eq_zero_iff, List.filter_eq_nil_iff]
  simp

@[simp] theorem lookup_text_cons {a b : String} :
    List.lookup (text a) ((text b, value) :: d) =
      if a = b then some value else d.lookup (text a) := by
  rw [List.lookup_cons]
  by_cases hName : a = b
  · simp [hName]
  · simp [hName, beq_eq_false_iff_ne.mpr (mt text_injective.mp hName)]

end Dict

end Lemmas

end CyreneExchange.Gateway
