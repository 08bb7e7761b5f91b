import Mathlib

/-! Texts that sort like what they stand for: fields of a fixed width side by
side, and numbers written with a fixed number of digits. -/
namespace FixedWidth

section Fields

variable {α β : Type*} [LT α] [LT β] {a b x y : List α}

/-- Fields of one width are compared before what follows them. -/
theorem append_lt_iff (h : a.length = b.length) : a ++ x < b ++ y ↔ a < b ∨ a = b ∧ x < y := by
  induction a generalizing b with
  | nil =>
      have hNil : b = [] := List.eq_nil_of_length_eq_zero h.symm
      subst hNil
      simp
  | cons first rest ih =>
      obtain ⟨first', rest', rfl⟩ : ∃ first' rest', b = first' :: rest' :=
        List.exists_cons_of_length_eq_add_one h.symm
      have hRest : rest.length = rest'.length := Nat.succ.inj h
      simp only [List.cons_append, List.cons_lt_cons_iff, ih hRest, List.cons.injEq]
      tauto

/-- Renaming letters in order keeps the order of the texts. -/
theorem map_lt_iff {f : α → β} (hOrder : ∀ c ∈ a, ∀ d ∈ b, f c < f d ↔ c < d)
    (hApart : ∀ c ∈ a, ∀ d ∈ b, f c = f d ↔ c = d) : a.map f < b.map f ↔ a < b := by
  induction a generalizing b with
  | nil => cases b <;> simp
  | cons first rest ih =>
      cases b with
      | nil => simp
      | cons first' rest' =>
          have hRest := @ih rest'
            (fun c hc d hd => hOrder c (List.mem_cons_of_mem _ hc) d (List.mem_cons_of_mem _ hd))
            fun c hc d hd => hApart c (List.mem_cons_of_mem _ hc) d (List.mem_cons_of_mem _ hd)
          rw [List.map_cons, List.map_cons, List.cons_lt_cons_iff, List.cons_lt_cons_iff, hRest,
            hOrder first List.mem_cons_self first' List.mem_cons_self,
            hApart first List.mem_cons_self first' List.mem_cons_self]

end Fields

section Sorting

variable {α β γ : Type*} [LinearOrder α] [LinearOrder β] {p : β → Prop}

/-- The values of a kind sort like what they are encoded as. -/
def Sorts [LT γ] (p : β → Prop) (encode : β → γ) : Prop :=
  ∀ a b, p a → p b → (encode a < encode b ↔ a < b)

/-- One direction is enough, as the values are ordered linearly. -/
theorem sorts_of_lt {encode : β → List α} (h : ∀ a b, p a → p b → a < b → encode a < encode b) :
    Sorts p encode := by
  intro a b ha hb
  refine ⟨fun hLess => ?_, h a b ha hb⟩
  rcases lt_trichotomy a b with hBefore | rfl | hAfter
  · exact hBefore
  · exact absurd hLess (List.lt_irrefl _)
  · exact absurd (List.lt_trans hLess (h b a hb ha hAfter)) (List.lt_irrefl _)

/-- What sorts like its encoding is determined by it. -/
theorem Sorts.eq_iff {encode : β → List α} (h : Sorts p encode) {a b : β} (ha : p a) (hb : p b) :
    encode a = encode b ↔ a = b := by
  refine ⟨fun hSame => ?_, congrArg encode⟩
  rcases lt_trichotomy a b with hBefore | hEqual | hAfter
  · exact absurd (hSame ▸ (h a b ha hb).mpr hBefore) (List.lt_irrefl _)
  · exact hEqual
  · exact absurd (hSame ▸ (h b a hb ha).mpr hAfter) (List.lt_irrefl _)

/-- A separator in front does not matter. -/
theorem Sorts.cons {encode : β → List α} (h : Sorts p encode) (c : α) :
    Sorts p fun b => c :: encode b := by
  intro a b ha hb
  rw [List.cons_lt_cons_iff]
  simp [h a b ha hb]

/-- A field of fixed width for the high part, and behind it the low part. -/
theorem Sorts.append {β₁ β₂ : Type*} [LinearOrder β₁] [LinearOrder β₂] {p₁ : β₁ → Prop}
    {p₂ : β₂ → Prop} {head : β₁ → List α} {tail : β₂ → List α} {width : Nat} (high : β → β₁)
    (low : β → β₂) (hHead : Sorts p₁ head) (hTail : Sorts p₂ tail)
    (hWidth : ∀ b, p₁ b → (head b).length = width)
    (hParts : ∀ b, p b → p₁ (high b) ∧ p₂ (low b))
    (hOrder : ∀ a b, p a → p b → (a < b ↔ high a < high b ∨ high a = high b ∧ low a < low b)) :
    Sorts p fun b => head (high b) ++ tail (low b) := by
  intro a b ha hb
  obtain ⟨hHighA, hLowA⟩ := hParts a ha
  obtain ⟨hHighB, hLowB⟩ := hParts b hb
  rw [append_lt_iff ((hWidth _ hHighA).trans (hWidth _ hHighB).symm), hHead _ _ hHighA hHighB,
    hHead.eq_iff hHighA hHighB, hTail _ _ hLowA hLowB, hOrder a b ha hb]

end Sorting

section Numbers

variable {α : Type*} {digit : Nat → α} {base width n : Nat}

/-- The last `width` digits of a number, most significant first. -/
def write (digit : Nat → α) (base width n : Nat) : List α :=
  (List.range width).reverse.map fun i => digit (n / base ^ i % base)

@[simp] theorem length_write : (write digit base width n).length = width := by
  simp [write]

theorem write_succ : write digit base (width + 1) n =
    digit (n / base ^ width % base) :: write digit base width n := by
  simp [write, List.range_succ]

variable [LinearOrder α]

/-- Written numbers of one width sort like what fits into that width. -/
theorem write_lt_write (hBase : 0 < base) (hDigit : Sorts (· < base) digit)
    (hApart : ∀ i j, i < base → j < base → (digit i = digit j ↔ i = j)) {m n : Nat} :
    write digit base width m < write digit base width n ↔ m % base ^ width < n % base ^ width := by
  induction width with
  | zero => simp [write, Nat.mod_one]
  | succ width ih =>
      have hFirst (k : Nat) : k / base ^ width % base < base := Nat.mod_lt _ hBase
      have hLow (k : Nat) : k % base ^ width < base ^ width := Nat.mod_lt _ (Nat.pow_pos hBase)
      rw [write_succ, write_succ, List.cons_lt_cons_iff, ih, hDigit _ _ (hFirst m) (hFirst n),
        hApart _ _ (hFirst m) (hFirst n), Nat.mod_pow_succ, Nat.mod_pow_succ]
      have hLowM := hLow m
      have hLowN := hLow n
      generalize m / base ^ width % base = high
      generalize n / base ^ width % base = high'
      generalize m % base ^ width = low at hLowM
      generalize n % base ^ width = low' at hLowN
      generalize base ^ width = unit at hLowM hLowN
      constructor
      · rintro (hLess | ⟨rfl, hLess⟩)
        · calc low + unit * high < unit + unit * high := by omega
            _ = unit * (high + 1) := by rw [Nat.mul_succ, Nat.add_comm]
            _ ≤ unit * high' := Nat.mul_le_mul_left _ hLess
            _ ≤ low' + unit * high' := Nat.le_add_left _ _
        · omega
      · intro hLess
        rcases Nat.lt_trichotomy high high' with hHigh | rfl | hHigh
        · exact .inl hHigh
        · exact .inr ⟨rfl, by omega⟩
        · have hAbove : unit * (high' + 1) ≤ unit * high := Nat.mul_le_mul_left _ hHigh
          rw [Nat.mul_succ] at hAbove
          omega

/-- Numbers that fit into the width sort as they are written. -/
theorem sorts_write (hBase : 0 < base) (hDigit : Sorts (· < base) digit)
    (hApart : ∀ i j, i < base → j < base → (digit i = digit j ↔ i = j)) (width : Nat) :
    Sorts (· < base ^ width) (write digit base width) := by
  intro m n hm hn
  rw [write_lt_write hBase hDigit hApart, Nat.mod_eq_of_lt hm, Nat.mod_eq_of_lt hn]

end Numbers

end FixedWidth
