import CyreneExchange.Integrations.Values

/-! A flat document is determined by its canonical text: what `json.dumps`
writes for null, booleans, integers and strings can be read back. -/
namespace CyreneExchange.Integrations

namespace Json

/-- Null, a boolean, an integer or a string. -/
def isScalar : Json → Bool
  | .null | .bool _ | .int _ | .str _ => true
  | _ => false

@[simp] theorem isScalar_int (n : Int) : (Json.int n).isScalar = true := rfl

@[simp] theorem isScalar_bool (b : Bool) : (Json.bool b).isScalar = true := rfl

@[simp] theorem isScalar_str (text : String) : (Json.str text).isScalar = true := rfl

@[simp] theorem isScalar_optionalText (value : Option String) :
    (optionalText value).isScalar = true := by
  cases value <;> rfl

def hexValue (c : Char) : Nat := if c.toNat < 58 then c.toNat - 48 else c.toNat - 87

/-- The character behind a two-character escape. -/
def unescape (c : Char) : Char :=
  if c = 'n' then '\n'
  else if c = 'r' then '\r'
  else if c = 't' then '\t'
  else if c = 'b' then Char.ofNat 8
  else if c = 'f' then Char.ofNat 12
  else c

/-- Read a string up to its closing quote. -/
def readQuoted : List Char → Option (List Char × List Char)
  | '"' :: rest => some ([], rest)
  | '\\' :: 'u' :: '0' :: '0' :: high :: low :: rest =>
      (readQuoted rest).map fun r =>
        (Char.ofNat (hexValue high * 16 + hexValue low) :: r.1, r.2)
  | '\\' :: c :: rest => (readQuoted rest).map fun r => (unescape c :: r.1, r.2)
  | c :: rest => (readQuoted rest).map fun r => (c :: r.1, r.2)
  | [] => none

/-- Read a scalar and leave what follows it. -/
def readScalar : List Char → Option (Json × List Char)
  | 'n' :: 'u' :: 'l' :: 'l' :: rest => some (.null, rest)
  | 't' :: 'r' :: 'u' :: 'e' :: rest => some (.bool true, rest)
  | 'f' :: 'a' :: 'l' :: 's' :: 'e' :: rest => some (.bool false, rest)
  | '"' :: rest => (readQuoted rest).map fun r => (.str (String.ofList r.1), r.2)
  | '-' :: rest =>
      some (.int (-(Nat.ofDigitChars 10 (rest.takeWhile Char.isDigit) 0 : Int)),
        rest.dropWhile Char.isDigit)
  | rest =>
      some (.int (Nat.ofDigitChars 10 (rest.takeWhile Char.isDigit) 0),
        rest.dropWhile Char.isDigit)

/-- What may follow a value inside a flat object. -/
def Stops (rest : List Char) : Prop := ∀ c ∈ rest.head?, c.isDigit = false

/-- The characters between the quotes. -/
def escaped (s : String) : List Char := s.toList.flatMap fun c => (escapeChar c).toList

theorem toList_quote (s : String) : (quote s).toList = '"' :: (escaped s ++ ['"']) := by
  simp [quote, escaped, List.flatMap_map]

theorem hexValue_digitChar : ∀ n < 16, hexValue (Nat.digitChar n) = n := by decide

/-- One escaped character is read back as that character. -/
theorem readQuoted_escapeChar (c : Char) (rest : List Char) :
    readQuoted ((escapeChar c).toList ++ rest) =
      (readQuoted rest).map fun r => (c :: r.1, r.2) := by
  unfold escapeChar
  split_ifs with hQuote hSlash hLine hReturn hTab hBack hFeed hControl
  · subst hQuote; rfl
  · subst hSlash; rfl
  · subst hLine; rfl
  · subst hReturn; rfl
  · subst hTab; rfl
  · have hChar : c = Char.ofNat 8 := by rw [← hBack, Char.ofNat_toNat]
    subst hChar; rfl
  · have hChar : c = Char.ofNat 12 := by rw [← hFeed, Char.ofNat_toNat]
    subst hChar; rfl
  · have hHigh := hexValue_digitChar (c.toNat / 16) (by omega)
    have hLow := hexValue_digitChar (c.toNat % 16) (Nat.mod_lt _ (by omega))
    have hWhole : c.toNat / 16 * 16 + c.toNat % 16 = c.toNat := by omega
    simp [readQuoted, hHigh, hLow, hWhole, Char.ofNat_toNat]
  · simp [readQuoted, hSlash]

theorem readQuoted_escaped (s : String) (rest : List Char) :
    readQuoted (escaped s ++ '"' :: rest) = some (s.toList, rest) := by
  unfold escaped
  induction s.toList with
  | nil => rfl
  | cons c cs ih =>
      rw [List.flatMap_cons, List.append_assoc, readQuoted_escapeChar, ih]
      rfl

theorem takeWhile_digits {digits rest : List Char} (hDigits : ∀ c ∈ digits, c.isDigit = true)
    (hStops : Stops rest) : (digits ++ rest).takeWhile Char.isDigit = digits ∧
      (digits ++ rest).dropWhile Char.isDigit = rest := by
  have hRest : rest.takeWhile Char.isDigit = [] ∧ rest.dropWhile Char.isDigit = rest := by
    cases rest with
    | nil => exact ⟨rfl, rfl⟩
    | cons c cs =>
        have hFirst : c.isDigit = false := hStops c rfl
        simp [hFirst]
  rw [List.takeWhile_append_of_pos hDigits, List.dropWhile_append_of_pos hDigits, hRest.1, hRest.2,
    List.append_nil]
  exact ⟨rfl, rfl⟩

/-- A text that starts with a digit is read as an integer. -/
theorem readScalar_of_digit {c : Char} {cs : List Char} (hDigit : c.isDigit = true) :
    readScalar (c :: cs) =
      some (.int (Nat.ofDigitChars 10 ((c :: cs).takeWhile Char.isDigit) 0),
        (c :: cs).dropWhile Char.isDigit) := by
  have hOther : ∀ d : Char, d.isDigit = false → c ≠ d := by
    rintro d hd rfl
    rw [hDigit] at hd
    cases hd
  rw [readScalar]
  · rintro rest ⟨⟩
    exact hOther 'n' rfl rfl
  · rintro rest ⟨⟩
    exact hOther 't' rfl rfl
  · rintro rest ⟨⟩
    exact hOther 'f' rfl rfl
  · rintro rest ⟨⟩
    exact hOther '"' rfl rfl
  · rintro rest ⟨⟩
    exact hOther '-' rfl rfl

theorem readScalar_digits {digits rest : List Char} (hDigits : ∀ c ∈ digits, c.isDigit = true)
    (hStops : Stops rest) (hSome : digits ≠ []) : readScalar (digits ++ rest) =
      some (.int (Nat.ofDigitChars 10 digits 0), rest) := by
  obtain ⟨hTake, hDrop⟩ := takeWhile_digits hDigits hStops
  obtain ⟨c, cs, rfl⟩ := List.exists_cons_of_ne_nil hSome
  rw [List.cons_append, readScalar_of_digit (hDigits c List.mem_cons_self), ← List.cons_append,
    hTake, hDrop]

/-- A scalar is read back from its text. -/
theorem readScalar_dumps {v : Json} (hScalar : v.isScalar = true) {rest : List Char}
    (hStops : Stops rest) : readScalar ((dumps v).toList ++ rest) = some (v, rest) := by
  cases v with
  | null => rfl
  | bool value => cases value <;> rfl
  | int n =>
      have hDigits : ∀ (m : Nat) (c : Char), c ∈ m.repr.toList → c.isDigit = true := by
        intro m c hc
        rw [Nat.repr, String.toList_ofList] at hc
        exact Nat.isDigit_of_mem_toDigits (by decide) (by decide) hc
      have hValue : ∀ m : Nat, Nat.ofDigitChars 10 m.repr.toList 0 = m := by
        intro m
        rw [Nat.repr, String.toList_ofList]
        exact Nat.ofDigitChars_ten_toDigits
      cases n with
      | ofNat m =>
          show readScalar (m.repr.toList ++ rest) = _
          rw [readScalar_digits (hDigits m) hStops, hValue]
          · rfl
          · rw [Nat.repr, String.toList_ofList]
            exact Nat.toDigits_ne_nil
      | negSucc m =>
          show readScalar (("-" ++ (m + 1).repr).toList ++ rest) = _
          obtain ⟨hTake, hDrop⟩ := takeWhile_digits (hDigits (m + 1)) hStops
          rw [String.toList_append]
          show some (Json.int (-(Nat.ofDigitChars 10 (((m + 1).repr.toList ++ rest).takeWhile
            Char.isDigit) 0 : Int)), ((m + 1).repr.toList ++ rest).dropWhile Char.isDigit) = _
          rw [hTake, hDrop, hValue]
          rfl
  | str s =>
      show readScalar ((quote s).toList ++ rest) = _
      rw [toList_quote, List.cons_append, List.append_assoc]
      show (readQuoted (escaped s ++ '"' :: rest)).map _ = _
      rw [readQuoted_escaped]
      simp
  | float repr => cases hScalar
  | arr items => cases hScalar
  | obj entries => cases hScalar

/-- A key and its value, as an object shows them. -/
def entryText (e : String × Json) : List Char :=
  '"' :: (escaped e.1 ++ '"' :: ':' :: (dumps e.2).toList)

theorem entryText_inj {e e' : String × Json} (hScalar : e.2.isScalar = true)
    (hScalar' : e'.2.isScalar = true) {rest rest' : List Char} (hStops : Stops rest)
    (hStops' : Stops rest') (h : entryText e ++ rest = entryText e' ++ rest') :
    e = e' ∧ rest = rest' := by
  simp only [entryText, List.cons_append, List.append_assoc, List.cons.injEq, true_and] at h
  have hKey := congrArg readQuoted h
  rw [readQuoted_escaped, readQuoted_escaped] at hKey
  simp only [Option.some.injEq, Prod.mk.injEq, List.cons.injEq, true_and] at hKey
  have hValue := congrArg readScalar hKey.2
  rw [readScalar_dumps hScalar hStops, readScalar_dumps hScalar' hStops'] at hValue
  simp only [Option.some.injEq, Prod.mk.injEq] at hValue
  exact ⟨Prod.ext (String.toList_inj.mp hKey.1) hValue.1, hValue.2⟩

/-- The rest of an object after one of its entries. -/
def closing : JsonObject → List Char
  | [] => ['\x7d']
  | e :: rest => ',' :: (entryText e ++ closing rest)

theorem closing_stops (d : JsonObject) : Stops (closing d) := by
  cases d <;> simp [Stops, closing, Char.isDigit]

theorem closing_inj {d d' : JsonObject} (hScalar : ∀ e ∈ d, e.2.isScalar = true)
    (hScalar' : ∀ e ∈ d', e.2.isScalar = true) (h : closing d = closing d') : d = d' := by
  induction d generalizing d' with
  | nil =>
      cases d' with
      | nil => rfl
      | cons e' rest' => simp [closing] at h
  | cons e rest ih =>
      cases d' with
      | nil => simp [closing] at h
      | cons e' rest' =>
          simp only [closing, List.cons.injEq, true_and] at h
          obtain ⟨rfl, hRest⟩ := entryText_inj (hScalar e List.mem_cons_self)
            (hScalar' e' List.mem_cons_self) (closing_stops rest) (closing_stops rest') h
          rw [ih (fun x hx => hScalar x (List.mem_cons_of_mem _ hx))
            (fun x hx => hScalar' x (List.mem_cons_of_mem _ hx)) hRest]

/-- Entries in the order `sort_keys` gives them. -/
def sortedByKey (d : JsonObject) : JsonObject := d.insertionSort fun a b => ¬ b.1 < a.1

theorem dumpsEntries_eq (d : JsonObject) : dumpsEntries d = d.map fun e => (e.1, dumps e.2) := by
  induction d with
  | nil => rfl
  | cons e rest ih => rw [dumpsEntries, ih, List.map_cons]

theorem intercalate_closing (e : String × Json) (d : JsonObject) :
    List.intercalate [','] ((e :: d).map entryText) ++ ['\x7d'] = entryText e ++ closing d := by
  induction d generalizing e with
  | nil => simp [closing]
  | cons e' rest ih =>
      rw [List.map_cons, List.map_cons, List.intercalate_cons_cons, List.append_assoc,
        List.append_assoc, ← List.map_cons, ih e']
      rfl

/-- The text of an object, entry by entry. -/
theorem toList_dumps_obj (d : JsonObject) : (dumps (.obj d)).toList =
    '\x7b' :: (List.intercalate [','] ((sortedByKey d).map entryText) ++ ['\x7d']) := by
  have hSorted : (dumpsEntries d).insertionSort (fun a b => ¬ b.1 < a.1) =
      (sortedByKey d).map fun e => (e.1, dumps e.2) := by
    rw [dumpsEntries_eq, sortedByKey]
    exact (List.map_insertionSort (fun a b : String × Json => ¬ b.1 < a.1)
      (fun a b : String × String => ¬ b.1 < a.1) _ d fun _ _ _ _ => Iff.rfl).symm
  have hEntry : (fun e : String × Json => (quote e.1 ++ ":" ++ dumps e.2).toList) = entryText := by
    funext e
    simp [entryText, toList_quote]
  rw [dumps]
  simp only [hSorted, String.toList_append, String.toList_intercalate, List.map_map]
  rw [← hEntry]
  rfl

theorem sortedByKey_inj {d d' : JsonObject} (hScalar : ∀ e ∈ d, e.2.isScalar = true)
    (hScalar' : ∀ e ∈ d', e.2.isScalar = true) (h : dumps (.obj d) = dumps (.obj d')) :
    sortedByKey d = sortedByKey d' := by
  have hText := congrArg String.toList h
  rw [toList_dumps_obj, toList_dumps_obj, List.cons.injEq] at hText
  have hSorted : ∀ e ∈ sortedByKey d, e.2.isScalar = true := fun e he =>
    hScalar e ((List.mem_insertionSort _).mp he)
  have hSorted' : ∀ e ∈ sortedByKey d', e.2.isScalar = true := fun e he =>
    hScalar' e ((List.mem_insertionSort _).mp he)
  generalize sortedByKey d = entries at hText hSorted ⊢
  generalize sortedByKey d' = entries' at hText hSorted' ⊢
  cases entries with
  | nil =>
      cases entries' with
      | nil => rfl
      | cons e' rest' =>
          rw [intercalate_closing] at hText
          simp [entryText] at hText
  | cons e rest =>
      rw [intercalate_closing] at hText
      cases entries' with
      | nil => simp [entryText] at hText
      | cons e' rest' =>
          rw [intercalate_closing] at hText
          exact closing_inj hSorted hSorted' (congrArg (',' :: ·) hText.2)

/-- Rearranging entries without moving any key moves nothing. -/
theorem eq_of_perm_of_keys {d d' : JsonObject} (hPerm : d.Perm d')
    (hKeys : d.map Prod.fst = d'.map Prod.fst) (hNodup : (d.map Prod.fst).Nodup) : d = d' := by
  induction d generalizing d' with
  | nil => exact (List.nil_perm.mp hPerm).symm
  | cons e rest ih =>
      cases d' with
      | nil => simp at hKeys
      | cons e' rest' =>
          simp only [List.map_cons, List.cons.injEq] at hKeys
          rw [List.map_cons, List.nodup_cons] at hNodup
          have hHead : e = e' := by
            rcases List.mem_cons.mp (hPerm.mem_iff.mp List.mem_cons_self) with hSame | hLater
            · exact hSame
            · exact absurd (hKeys.2 ▸ List.mem_map_of_mem hLater) hNodup.1
          subst hHead
          rw [ih hPerm.cons_inv hKeys.2 hNodup.2]

/-- Flat documents with the same keys are told apart by their texts. -/
theorem dumps_obj_inj {d d' : JsonObject} (hKeys : d.map Prod.fst = d'.map Prod.fst)
    (hNodup : (d.map Prod.fst).Nodup) (hScalar : ∀ e ∈ d, e.2.isScalar = true)
    (hScalar' : ∀ e ∈ d', e.2.isScalar = true) (h : dumps (.obj d) = dumps (.obj d')) :
    d = d' := by
  have hSorted := sortedByKey_inj hScalar hScalar' h
  have hPerm : (sortedByKey d).Perm d := List.perm_insertionSort _ d
  rw [hSorted] at hPerm
  exact eq_of_perm_of_keys (hPerm.symm.trans (List.perm_insertionSort _ d')) hKeys hNodup

section Sizes

/-- The bytes a text takes up between quotes. -/
def escapedBytes (text : String) : Nat :=
  (text.toList.map fun c => (escapeChar c).utf8ByteSize).sum

/-- A size of texts that concatenation adds up. -/
structure Additive (size : String → Nat) : Prop where
  empty : size "" = 0
  append : ∀ a b, size (a ++ b) = size a + size b

theorem utf8ByteSize_additive : Additive String.utf8ByteSize :=
  ⟨rfl, fun _ _ => String.utf8ByteSize_append⟩

theorem escapedBytes_additive : Additive escapedBytes :=
  ⟨rfl, fun a b => by simp [escapedBytes]⟩

variable {size : String → Nat}

theorem Additive.join (h : Additive size) (texts : List String) :
    size (String.join texts) = (texts.map size).sum := by
  induction texts with
  | nil => exact h.empty
  | cons text rest ih => simp [h.append, ih]

theorem Additive.intercalate (h : Additive size) (texts : List String) :
    size (String.intercalate "," texts) =
      (texts.map size).sum + (texts.length - 1) * size "," := by
  induction texts with
  | nil => simpa using h.empty
  | cons text rest ih =>
      cases rest with
      | nil => simp
      | cons next rest =>
          rw [String.intercalate_cons_cons, h.append, h.append, ih]
          simp only [List.map_cons, List.sum_cons, List.length_cons, Nat.add_sub_cancel]
          rw [Nat.add_mul, Nat.one_mul]
          omega

/-- The size of an object, whatever order its keys are written in. -/
theorem Additive.dumps_obj (h : Additive size) (d : JsonObject) : size (dumps (.obj d)) =
    size "\x7b" + (d.map fun e => size (quote e.1) + size ":" + size (dumps e.2)).sum +
      (d.length - 1) * size "," + size "\x7d" := by
  rw [dumps]
  simp only [h.append, h.intercalate, List.map_map, List.length_map, List.length_insertionSort,
    dumpsEntries_eq]
  have hPerm := (List.perm_insertionSort (fun a b : String × String => ¬ b.1 < a.1)
    (d.map fun e => (e.1, dumps e.2))).map (fun e => size (quote e.1) + size ":" + size e.2)
  have hSum := hPerm.sum_nat
  rw [List.map_map] at hSum
  simp only [Function.comp_def, h.append] at hSum ⊢
  rw [hSum]
  omega

theorem Additive.dumps_arr_singleton (h : Additive size) (v : Json) :
    size (dumps (.arr [v])) = size "[" + size (dumps v) + size "]" := by
  rw [dumps]
  simp [dumpsItems, h.append]

theorem utf8ByteSize_quote (text : String) :
    (quote text).utf8ByteSize = escapedBytes text + 2 := by
  have hQuote : "\"".utf8ByteSize = 1 := rfl
  unfold quote
  rw [String.utf8ByteSize_append, String.utf8ByteSize_append, utf8ByteSize_additive.join, hQuote,
    List.map_map]
  unfold escapedBytes
  simp only [Function.comp_def]
  omega

end Sizes

end Json

/-- No two of the texts share a digest. -/
def CollisionFree (sha256 : String → String) (texts : List String) : Prop :=
  ∀ a ∈ texts, ∀ b ∈ texts, sha256 a = sha256 b → a = b

theorem CollisionFree.mono {sha256 : String → String} {texts texts' : List String}
    (h : CollisionFree sha256 texts') (hSub : texts ⊆ texts') : CollisionFree sha256 texts :=
  fun a ha b hb => h a (hSub ha) b (hSub hb)

/-- The digest function on the texts of a sample run, as a table of digests. -/
def digestOf (table : List (String × String)) (text : String) : String :=
  (table.lookup text).getD ""

theorem mem_of_lookup {table : List (String × String)} {text : String}
    (h : text ∈ table.map Prod.fst) : (text, digestOf table text) ∈ table := by
  induction table with
  | nil => cases h
  | cons entry rest ih =>
      obtain ⟨key, digest⟩ := entry
      unfold digestOf at ih ⊢
      rw [List.lookup_cons]
      by_cases hKey : text = key
      · simp [hKey]
      · rw [beq_eq_false_iff_ne.mpr hKey]
        refine List.mem_cons_of_mem _ (ih ?_)
        exact (List.mem_cons.mp h).resolve_left hKey

theorem digestOf_collisionFree {table : List (String × String)}
    (h : (table.map Prod.snd).Nodup) : CollisionFree (digestOf table) (table.map Prod.fst) := by
  intro a ha b hb hSame
  have hFirst := mem_of_lookup ha
  have hSecond := mem_of_lookup hb
  rw [hSame] at hFirst
  exact (Prod.mk.inj (List.inj_on_of_nodup_map h hFirst hSecond rfl)).1

end CyreneExchange.Integrations
