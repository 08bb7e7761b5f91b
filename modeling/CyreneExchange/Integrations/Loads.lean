import CyreneExchange.Integrations.Canonical

/-! Reading back a nested document that `json.dumps` wrote. Nothing is lost but
the order of the keys, which the text has sorted. -/
namespace CyreneExchange.Integrations.Json

/-- The text goes on with a scalar. -/
def startsScalar : List Char → Bool
  | '-' :: c :: _ => c.isDigit
  | c :: _ => c.isDigit || ['"', 'n', 't', 'f'].contains c
  | [] => false

mutual
/-- Read a value and leave what follows it. -/
def readValue : Nat → List Char → Option (Json × List Char)
  | 0, _ => none
  | _ + 1, '[' :: ']' :: rest => some (.arr [], rest)
  | fuel + 1, '[' :: rest => (readItems fuel rest).map fun r => (.arr r.1, r.2)
  | _ + 1, '\x7b' :: '\x7d' :: rest => some (.obj [], rest)
  | fuel + 1, '\x7b' :: rest => (readEntries fuel rest).map fun r => (.obj r.1, r.2)
  | _ + 1, text => if startsScalar text then readScalar text else none

/-- Read the items of an array up to its closing bracket. -/
def readItems : Nat → List Char → Option (List Json × List Char)
  | 0, _ => none
  | fuel + 1, text => match readValue fuel text with
      | some (v, ']' :: rest) => some ([v], rest)
      | some (v, ',' :: rest) => (readItems fuel rest).map fun r => (v :: r.1, r.2)
      | _ => none

/-- Read the entries of an object up to its closing brace. -/
def readEntries : Nat → List Char → Option (JsonObject × List Char)
  | fuel + 1, '"' :: text => match readQuoted text with
      | some (key, ':' :: value) => match readValue fuel value with
          | some (v, '\x7d' :: rest) => some ([(String.ofList key, v)], rest)
          | some (v, ',' :: rest) =>
              (readEntries fuel rest).map fun r => ((String.ofList key, v) :: r.1, r.2)
          | _ => none
      | _ => none
  | _, _ => none
end

/-- `json.loads` of a text that `json.dumps` wrote. -/
def loads (text : String) : Option Json :=
  match readValue text.length text.toList with
  | some (v, []) => some v
  | _ => none

mutual
/-- The document with the keys of every object in order. -/
def sorted : Json → Json
  | .arr items => .arr (sortedItems items)
  | .obj entries => .obj (sortedByKey (sortedEntries entries))
  | v => v

def sortedItems : List Json → List Json
  | [] => []
  | v :: rest => v.sorted :: sortedItems rest

def sortedEntries : JsonObject → JsonObject
  | [] => []
  | (k, v) :: rest => (k, v.sorted) :: sortedEntries rest
end

/-- A document without floats. -/
inductive Floatless : Json → Prop
  | scalar {v : Json} (h : v.isScalar = true) : Floatless v
  | arr {items : List Json} (h : ∀ v ∈ items, Floatless v) : Floatless (.arr items)
  | obj {entries : JsonObject} (h : ∀ e ∈ entries, Floatless e.2) : Floatless (.obj entries)

section Sorting

variable {v : Json} {d : JsonObject} {key : String}

theorem sorted_of_isScalar (h : v.isScalar = true) : v.sorted = v := by
  cases v with
  | arr items | obj entries | float repr => cases h
  | null | bool value | int value | str value => rfl

theorem sortedItems_eq (items : List Json) : sortedItems items = items.map sorted := by
  induction items with
  | nil => rfl
  | cons v rest ih => rw [sortedItems, ih, List.map_cons]

theorem sortedEntries_eq (d : JsonObject) :
    sortedEntries d = d.map fun e => (e.1, e.2.sorted) := by
  induction d with
  | nil => rfl
  | cons e rest ih => rw [sortedEntries, ih, List.map_cons]

/-- Sorting the keys after the values or before them. -/
theorem sortedByKey_map (d : JsonObject) :
    sortedByKey (d.map fun e => (e.1, e.2.sorted)) =
      (sortedByKey d).map fun e => (e.1, e.2.sorted) :=
  (List.map_insertionSort (fun a b : String × Json => ¬ b.1 < a.1)
    (fun a b : String × Json => ¬ b.1 < a.1) (fun e => (e.1, e.2.sorted)) d
    fun _ _ _ _ => Iff.rfl).symm

theorem get_eq_some_iff (hNodup : (d.map Prod.fst).Nodup) :
    d.get key = some v ↔ (key, v) ∈ d := by
  unfold JsonObject.get
  induction d with
  | nil => simp
  | cons e rest ih =>
      obtain ⟨name, value⟩ := e
      rw [List.map_cons, List.nodup_cons] at hNodup
      rw [List.lookup_cons, List.mem_cons]
      by_cases hKey : key = name
      · subst hKey
        have hGone : (key, v) ∉ rest := fun hMem => hNodup.1 (List.mem_map.mpr ⟨_, hMem, rfl⟩)
        simp [hGone, eq_comm]
      · rw [beq_eq_false_iff_ne.mpr hKey]
        simpa [hKey] using ih hNodup.2

/-- A key is looked up in the sorted document as in the document. -/
theorem get_sorted (hNodup : (d.map Prod.fst).Nodup) :
    (sortedByKey (sortedEntries d)).get key = (d.get key).map sorted := by
  have hMap : (sortedEntries d).get key = (d.get key).map sorted := by
    rw [sortedEntries_eq]
    unfold JsonObject.get
    clear hNodup
    induction d with
    | nil => rfl
    | cons e rest ih =>
        rw [List.map_cons, List.lookup_cons, List.lookup_cons, ih]
        cases key == e.1 <;> rfl
  have hPerm : (sortedByKey (sortedEntries d)).Perm (sortedEntries d) :=
    List.perm_insertionSort _ _
  have hKeys : ((sortedEntries d).map Prod.fst).Nodup := by
    rw [sortedEntries_eq, List.map_map]
    exact hNodup
  rw [← hMap]
  apply Option.ext
  intro value
  rw [get_eq_some_iff hKeys, get_eq_some_iff ((hPerm.map Prod.fst).nodup_iff.mpr hKeys)]
  exact hPerm.mem_iff

end Sorting

section RoundTrip

variable {v : Json} {tail : List Char}

/-- The rest of an array after one of its items. -/
def closingItems : List Json → List Char
  | [] => [']']
  | v :: rest => ',' :: ((dumps v).toList ++ closingItems rest)

theorem closingItems_stops (items : List Json) (tail : List Char) :
    Stops (closingItems items ++ tail) := by
  cases items <;> simp [Stops, closingItems, Char.isDigit]

theorem closing_append_stops (d : JsonObject) (tail : List Char) : Stops (closing d ++ tail) := by
  cases d <;> simp [Stops, closing, Char.isDigit]

theorem dumpsItems_eq (items : List Json) : dumpsItems items = items.map dumps := by
  induction items with
  | nil => rfl
  | cons v rest ih => rw [dumpsItems, ih, List.map_cons]

/-- The text of an array, item by item. -/
theorem toList_dumps_arr (v : Json) (items : List Json) : (dumps (.arr (v :: items))).toList =
    '[' :: ((dumps v).toList ++ closingItems items) := by
  have hItems : ∀ (v : Json) (items : List Json),
      List.intercalate [','] ((v :: items).map fun v => (dumps v).toList) ++ [']'] =
        (dumps v).toList ++ closingItems items := by
    intro v items
    induction items generalizing v with
    | nil => simp [closingItems]
    | cons next rest ih =>
        rw [List.map_cons, List.map_cons, List.intercalate_cons_cons, List.append_assoc,
          List.append_assoc, ← List.map_cons (f := fun v => (dumps v).toList), ih next]
        rfl
  rw [← hItems, dumps, dumpsItems_eq]
  simp only [String.toList_append, String.toList_intercalate, List.map_map]
  rfl

theorem startsScalar_digit {c : Char} (cs : List Char) (h : c.isDigit = true) :
    startsScalar (c :: cs) = true := by
  have hMinus : c ≠ '-' := by
    rintro rfl
    cases h
  cases cs <;> simp [startsScalar, h, hMinus]

/-- The text of a scalar starts as one. -/
theorem startsScalar_dumps (h : v.isScalar = true) (tail : List Char) :
    startsScalar ((dumps v).toList ++ tail) = true := by
  have hDigits : ∀ m : Nat, ∃ c cs, m.repr.toList = c :: cs ∧ c.isDigit = true := by
    intro m
    have hText : m.repr.toList = Nat.toDigits 10 m := by
      rw [Nat.repr, String.toList_ofList]
    obtain ⟨c, cs, hCons⟩ := List.exists_cons_of_ne_nil (Nat.toDigits_ne_nil (b := 10) (n := m))
    refine ⟨c, cs, hText.trans hCons, ?_⟩
    apply Nat.isDigit_of_mem_toDigits (b := 10) (n := m) (by decide) (by decide)
    rw [hCons]
    exact List.mem_cons_self
  cases v with
  | null => rfl
  | bool value => cases value <;> rfl
  | int n =>
      cases n with
      | ofNat m =>
          obtain ⟨c, cs, hCons, hDigit⟩ := hDigits m
          show startsScalar (m.repr.toList ++ tail) = true
          rw [hCons]
          exact startsScalar_digit _ hDigit
      | negSucc m =>
          obtain ⟨c, cs, hCons, hDigit⟩ := hDigits (m + 1)
          show startsScalar (("-" ++ (m + 1).repr).toList ++ tail) = true
          rw [String.toList_append, hCons]
          exact hDigit
  | str text =>
      show startsScalar ((quote text).toList ++ tail) = true
      rw [toList_quote]
      cases h : escaped text ++ ['"'] ++ tail with
      | nil => simp at h
      | cons c cs => simp [startsScalar, h]
  | float repr => cases h
  | arr items => cases h
  | obj entries => cases h

/-- A text that starts as a scalar is read as one. -/
theorem readValue_scalar {text : List Char} (fuel : Nat) (h : startsScalar text = true) :
    readValue (fuel + 1) text = readScalar text := by
  cases text with
  | nil => cases h
  | cons c cs =>
      have hArray : c ≠ '[' := by
        rintro rfl
        cases cs <;> simp [startsScalar] at h
      have hObject : c ≠ '\x7b' := by
        rintro rfl
        cases cs <;> simp [startsScalar] at h
      rw [readValue, if_pos h]
      all_goals simp_all

/-- No document starts with a closing bracket. -/
theorem dumps_head (h : Floatless v) : ∃ c cs, (dumps v).toList = c :: cs ∧ c ≠ ']' := by
  cases h with
  | scalar h =>
      have hStarts := startsScalar_dumps h []
      rw [List.append_nil] at hStarts
      cases hText : (dumps v).toList with
      | nil =>
          rw [hText] at hStarts
          cases hStarts
      | cons c cs =>
          refine ⟨c, cs, rfl, ?_⟩
          rintro rfl
          rw [hText] at hStarts
          cases cs <;> simp [startsScalar] at hStarts
  | @arr items _ =>
      cases items with
      | nil => exact ⟨'[', [']'], rfl, by decide⟩
      | cons v rest => exact ⟨'[', _, toList_dumps_arr v rest, by decide⟩
  | @obj entries _ => exact ⟨'\x7b', _, toList_dumps_obj entries, by decide⟩

/-- The value is read back from its text, with its keys in order. -/
def ReadBack (v : Json) : Prop :=
  ∀ fuel tail, Stops tail → (dumps v).toList.length ≤ fuel →
    readValue fuel ((dumps v).toList ++ tail) = some (v.sorted, tail)

theorem readItems_closing {items : List Json} (hFirst : ReadBack v)
    (hItems : ∀ item ∈ items, ReadBack item) (fuel : Nat) (tail : List Char)
    (hFuel : ((dumps v).toList ++ closingItems items).length ≤ fuel) :
    readItems fuel ((dumps v).toList ++ closingItems items ++ tail) =
      some (v.sorted :: items.map sorted, tail) := by
  induction items generalizing v fuel with
  | nil =>
      cases fuel with
      | zero => simp [closingItems] at hFuel
      | succ fuel =>
          have hValue := hFirst fuel (closingItems [] ++ tail) (closingItems_stops [] tail)
            (by simpa [closingItems] using hFuel)
          rw [readItems, List.append_assoc, hValue]
          rfl
  | cons next rest ih =>
      cases fuel with
      | zero => simp [closingItems] at hFuel
      | succ fuel =>
          simp only [closingItems, List.length_append, List.length_cons] at hFuel
          have hValue := hFirst fuel (closingItems (next :: rest) ++ tail)
            (closingItems_stops (next :: rest) tail) (by omega)
          have hRest := ih (hItems next List.mem_cons_self)
            (fun item hItem => hItems item (List.mem_cons_of_mem next hItem)) fuel
            (by rw [List.length_append]; omega)
          rw [readItems, List.append_assoc, hValue]
          show (readItems fuel ((dumps next).toList ++ closingItems rest ++ tail)).map _ = _
          rw [hRest]
          rfl

theorem readEntries_closing {e : String × Json} {d : JsonObject} (hFirst : ReadBack e.2)
    (hEntries : ∀ entry ∈ d, ReadBack entry.2) (fuel : Nat) (tail : List Char)
    (hFuel : (entryText e ++ closing d).length ≤ fuel) :
    readEntries fuel (entryText e ++ closing d ++ tail) =
      some ((e.1, e.2.sorted) :: d.map (fun entry => (entry.1, entry.2.sorted)), tail) := by
  induction d generalizing e fuel with
  | nil =>
      cases fuel with
      | zero => simp [entryText] at hFuel
      | succ fuel =>
          simp only [entryText, closing, List.length_append, List.length_cons] at hFuel
          have hValue := hFirst fuel (closing [] ++ tail) (closing_append_stops [] tail) (by omega)
          simp only [entryText, List.cons_append, List.append_assoc, readEntries,
            readQuoted_escaped, hValue]
          simp [closing]
  | cons next rest ih =>
      cases fuel with
      | zero => simp [entryText] at hFuel
      | succ fuel =>
          have hRest := ih (hEntries next List.mem_cons_self)
            (fun entry hEntry => hEntries entry (List.mem_cons_of_mem next hEntry)) fuel
            (by
              simp only [entryText, closing, List.length_append, List.length_cons] at hFuel ⊢
              omega)
          simp only [entryText, closing, List.length_append, List.length_cons] at hFuel
          have hValue := hFirst fuel (closing (next :: rest) ++ tail)
            (closing_append_stops (next :: rest) tail) (by omega)
          simp only [entryText, List.cons_append, List.append_assoc, readEntries,
            readQuoted_escaped, hValue]
          show Option.map _ (readEntries fuel (entryText next ++ closing rest ++ tail)) = _
          rw [hRest]
          simp

/-- Every document without floats is read back. -/
theorem Floatless.readBack (h : Floatless v) : ReadBack v := by
  induction h with
  | @scalar v h =>
      intro fuel tail hStops hFuel
      have hStarts := startsScalar_dumps h tail
      cases fuel with
      | zero =>
          obtain ⟨c, cs, hText, _⟩ := dumps_head (.scalar h)
          simp [hText] at hFuel
      | succ fuel =>
          rw [readValue_scalar fuel hStarts, readScalar_dumps h hStops, sorted_of_isScalar h]
  | @arr items hItems ih =>
      intro fuel tail hStops hFuel
      cases items with
      | nil =>
          cases fuel with
          | zero => simp [dumps] at hFuel
          | succ fuel => rfl
      | cons first rest =>
          rw [toList_dumps_arr] at hFuel ⊢
          cases fuel with
          | zero => simp at hFuel
          | succ fuel =>
              have hRead := readItems_closing (ih first List.mem_cons_self)
                (fun item hItem => ih item (List.mem_cons_of_mem first hItem)) fuel tail
                (by simpa using hFuel)
              obtain ⟨c, cs, hText, hHead⟩ := dumps_head (hItems first List.mem_cons_self)
              rw [hText] at hRead ⊢
              simp only [List.cons_append] at hRead ⊢
              rw [readValue, hRead]
              · simp [sorted, sortedItems_eq]
              · simpa using hHead
  | @obj entries hEntries ih =>
      intro fuel tail hStops hFuel
      have hSorted : (Json.obj entries).sorted =
          .obj ((sortedByKey entries).map fun e => (e.1, e.2.sorted)) := by
        rw [sorted, sortedEntries_eq, sortedByKey_map]
      have hMem : ∀ e ∈ sortedByKey entries, ReadBack e.2 := fun e he =>
        ih e ((List.mem_insertionSort _).mp he)
      rw [hSorted]
      rw [toList_dumps_obj] at hFuel ⊢
      cases hKeys : sortedByKey entries with
      | nil =>
          rw [hKeys] at hFuel
          cases fuel with
          | zero => simp at hFuel
          | succ fuel => rfl
      | cons e rest =>
          rw [hKeys] at hFuel hMem
          rw [intercalate_closing] at hFuel ⊢
          cases fuel with
          | zero => simp at hFuel
          | succ fuel =>
              have hRead := readEntries_closing (hMem e List.mem_cons_self)
                (fun entry hEntry => hMem entry (List.mem_cons_of_mem e hEntry)) fuel tail
                (by simpa using hFuel)
              simp only [entryText, List.cons_append] at hRead ⊢
              rw [readValue, hRead]
              · rfl
              · simp

/-- A document without floats comes back with its keys in order. -/
theorem loads_dumps (h : Floatless v) : loads (dumps v) = some v.sorted := by
  have hRead := h.readBack (dumps v).length [] (by simp [Stops]) (Nat.le_of_eq rfl)
  rw [List.append_nil] at hRead
  unfold loads
  rw [hRead]

end RoundTrip

end CyreneExchange.Integrations.Json
