import CyreneExchange.Gateway.Values

/-! Redaction of log attributes. A value is found by the keys and indices that
lead to it, and what redaction owes is stated over these paths. -/
namespace CyreneExchange.Logging

open CyreneExchange.Gateway (Str text)

/-- A log attribute: text, another scalar, or a container. The entries of a
mapping stand in iteration order. -/
inductive Attribute (Scalar : Type) where
  | text (value : Str)
  | scalar (value : Scalar)
  | mapping (entries : List (Str × Attribute Scalar))
  | list (items : List (Attribute Scalar))
  | tuple (items : List (Attribute Scalar))

variable {Scalar : Type}

section Redaction

/-- `is_sensitive_key`. The lower case of U+0130 starts with an ASCII `i`, but no
text that is looked for ends in one. -/
def isSensitiveBy (substrings : List Str) (key : Str) : Bool :=
  let lower := key.lower.map fun c => if c = 45 then 95 else c
  if lower = text "tokens" || (text "_tokens").isSuffixOf lower || lower = text "token_count" then
    false
  else substrings.any fun sub => Str.includes lower sub

def mark : Attribute Scalar := .text (text "[REDACTED]")

mutual

/-- The value that `redact_attributes` stores under a key that is not sensitive. -/
def redactValue (sensitive : Str → Bool) : Attribute Scalar → Attribute Scalar
  | .mapping entries => .mapping (redactBy sensitive entries)
  | .list items => .list (redactItems sensitive items)
  | .tuple items => .list (redactItems sensitive items)
  | .text value => .text value
  | .scalar value => .scalar value

/-- `redact_attributes`, over the test for a sensitive key. -/
def redactBy (sensitive : Str → Bool) :
    List (Str × Attribute Scalar) → List (Str × Attribute Scalar)
  | [] => []
  | (k, v) :: rest =>
      (k, if sensitive k then mark else redactValue sensitive v) :: redactBy sensitive rest

/-- The comprehension over a list or tuple: only its mappings are redacted. -/
def redactItems (sensitive : Str → Bool) : List (Attribute Scalar) → List (Attribute Scalar)
  | [] => []
  | .mapping entries :: rest => .mapping (redactBy sensitive entries) :: redactItems sensitive rest
  | item :: rest => item :: redactItems sensitive rest

end

end Redaction

section Copies

def Gateway.sensitiveKeySubstrings : List Str :=
  ["authorization", "auth", "token", "api_key", "apikey", "secret", "password", "cookie",
    "client_secret", "private_key"].map text

/-- `is_sensitive_key` of `cyrene_exchange.logging`. -/
def Gateway.isSensitiveKey : Str → Bool := isSensitiveBy Gateway.sensitiveKeySubstrings

/-- `redact_attributes` of `cyrene_exchange.logging`. -/
def Gateway.redactAttributes (attrs : List (Str × Attribute Scalar)) :
    List (Str × Attribute Scalar) :=
  redactBy Gateway.isSensitiveKey attrs

def Product.sensitiveKeySubstrings : List Str :=
  ["authorization", "auth", "token", "api_key", "apikey", "secret", "password", "cookie",
    "client_secret", "private_key"].map text

/-- `is_sensitive_key` of `cyrene_exchange_product.logging`. -/
def Product.isSensitiveKey : Str → Bool := isSensitiveBy Product.sensitiveKeySubstrings

/-- `redact_attributes` of `cyrene_exchange_product.logging`. -/
def Product.redactAttributes (attrs : List (Str × Attribute Scalar)) :
    List (Str × Attribute Scalar) :=
  redactBy Product.isSensitiveKey attrs

end Copies

section Paths

/-- One step down an attribute tree. -/
inductive Step where
  | key (name : Str)
  | index (place : Nat)

inductive Child : Attribute Scalar → Step → Attribute Scalar → Prop where
  | entry {entries k v} : (k, v) ∈ entries → Child (.mapping entries) (.key k) v
  | listed {items : List (Attribute Scalar)} {i v} :
      items[i]? = some v → Child (.list items) (.index i) v
  | tupled {items : List (Attribute Scalar)} {i v} :
      items[i]? = some v → Child (.tuple items) (.index i) v

/-- The value `v` stands in `root` at the end of `path`. -/
def At (root : Attribute Scalar) : List Step → Attribute Scalar → Prop
  | [], v => v = root
  | step :: path, v => ∃ child, Child root step child ∧ At child path v

/-- A list or a tuple. -/
def Attribute.IsSequence : Attribute Scalar → Prop
  | .list _ | .tuple _ => True
  | _ => False

/-- No key on the path is sensitive. -/
def Plain (sensitive : Str → Bool) (path : List Step) : Prop :=
  ∀ k, Step.key k ∈ path → sensitive k = false

/-- No item of a sequence that is itself a sequence is entered. -/
def Descended : List Step → Prop
  | .index _ :: .index _ :: _ => False
  | _ :: path => Descended path
  | [] => True

theorem at_append {v w : Attribute Scalar} {first rest : List Step} :
    At v (first ++ rest) w ↔ ∃ middle, At v first middle ∧ At middle rest w := by
  induction first generalizing v with
  | nil => simp [At]
  | cons step first ih =>
      simp only [List.cons_append, At, ih]
      constructor
      · rintro ⟨child, hChild, middle, hFirst, hRest⟩
        exact ⟨middle, ⟨child, hChild, hFirst⟩, hRest⟩
      · rintro ⟨middle, ⟨child, hChild, hFirst⟩, hRest⟩
        exact ⟨child, hChild, middle, hFirst, hRest⟩

theorem Child.isSequence {v child : Attribute Scalar} {i : Nat} (h : Child v (.index i) child) :
    v.IsSequence := by
  cases h <;> trivial

theorem plain_cons {sensitive : Str → Bool} {step : Step} {path : List Step} :
    Plain sensitive (step :: path) ↔
      (∀ k, step = .key k → sensitive k = false) ∧ Plain sensitive path := by
  constructor
  · intro h
    exact ⟨fun k he => h k (he ▸ List.mem_cons_self), fun k hk => h k (List.mem_cons_of_mem _ hk)⟩
  · rintro ⟨hStep, hPath⟩ k hk
    rcases List.mem_cons.mp hk with he | hk
    · exact hStep k he.symm
    · exact hPath k hk

end Paths

section Descent

variable (sensitive : Str → Bool)

/-- What the comprehension makes of one item. -/
def redactItem : Attribute Scalar → Attribute Scalar
  | .mapping entries => .mapping (redactBy sensitive entries)
  | item => item

theorem redactBy_eq (entries : List (Str × Attribute Scalar)) :
    redactBy sensitive entries =
      entries.map fun e => (e.1, if sensitive e.1 then mark else redactValue sensitive e.2) := by
  induction entries with
  | nil => rfl
  | cons e rest ih => rw [redactBy, ih, List.map_cons]

theorem redactItems_eq (items : List (Attribute Scalar)) :
    redactItems sensitive items = items.map (redactItem sensitive) := by
  induction items with
  | nil => rfl
  | cons item rest ih => cases item <;> simp [redactItems, redactItem, ih]

variable {sensitive}

theorem redactItem_sequence {item : Attribute Scalar} (h : item.IsSequence) :
    redactItem sensitive item = item := by
  cases item with
  | list items => rfl
  | tuple items => rfl
  | text value => rfl
  | scalar value => rfl
  | mapping entries => exact h.elim

theorem redactItem_single {item : Attribute Scalar} (h : ¬ item.IsSequence) :
    redactItem sensitive item = redactValue sensitive item := by
  cases item with
  | list items => exact (h trivial).elim
  | tuple items => exact (h trivial).elim
  | text value => rfl
  | scalar value => rfl
  | mapping entries => rfl

/-- What stands one step down a redacted value. -/
theorem child_redactValue {v : Attribute Scalar} {step : Step} {x : Attribute Scalar} :
    Child (redactValue sensitive v) step x ↔
      ∃ child, Child v step child ∧
        x = match step with
          | .key k => if sensitive k then mark else redactValue sensitive child
          | .index _ => redactItem sensitive child := by
  constructor
  · intro h
    cases v with
    | text value => cases h
    | scalar value => cases h
    | mapping entries =>
        rw [redactValue, redactBy_eq] at h
        cases h with
        | entry hm =>
            obtain ⟨e, he, heq⟩ := List.mem_map.mp hm
            obtain ⟨rfl, rfl⟩ := Prod.mk.inj heq
            exact ⟨e.2, .entry he, rfl⟩
    | list items =>
        rw [redactValue, redactItems_eq] at h
        cases h with
        | listed hi =>
            rw [List.getElem?_map, Option.map_eq_some_iff] at hi
            obtain ⟨child, hChild, rfl⟩ := hi
            exact ⟨child, .listed hChild, rfl⟩
    | tuple items =>
        rw [redactValue, redactItems_eq] at h
        cases h with
        | listed hi =>
            rw [List.getElem?_map, Option.map_eq_some_iff] at hi
            obtain ⟨child, hChild, rfl⟩ := hi
            exact ⟨child, .tupled hChild, rfl⟩
  · rintro ⟨child, hChild, rfl⟩
    cases hChild with
    | entry hm =>
        rw [redactValue, redactBy_eq]
        exact .entry (List.mem_map.mpr ⟨_, hm, rfl⟩)
    | listed hi =>
        rw [redactValue, redactItems_eq]
        exact .listed (by rw [List.getElem?_map, hi]; rfl)
    | tupled hi =>
        rw [redactValue, redactItems_eq]
        exact .listed (by rw [List.getElem?_map, hi]; rfl)

end Descent

section Requirement

/-- Every value under a sensitive key is the mark. -/
def Hidden (sensitive : Str → Bool) (root : Attribute Scalar) : Prop :=
  ∀ path k v, At root (path ++ [.key k]) v → sensitive k = true → v = mark

/-- Equal text and scalars, a mapping with the same keys in the same order, a
sequence of the same length. -/
def SameShape : Attribute Scalar → Attribute Scalar → Prop
  | .text value, result => result = .text value
  | .scalar value, result => result = .scalar value
  | .mapping entries, result =>
      ∃ entries', result = .mapping entries' ∧ entries'.map Prod.fst = entries.map Prod.fst
  | .list items, result | .tuple items, result =>
      ∃ items', (result = .list items' ∨ result = .tuple items') ∧ items'.length = items.length

def Attribute.IsTuple : Attribute Scalar → Prop
  | .tuple _ => True
  | _ => False

/-- `SameShape`, and a tuple is not made a list. -/
def SameValue (v result : Attribute Scalar) : Prop :=
  SameShape v result ∧ (v.IsTuple → result.IsTuple)

/-- `result` is `root` with its sensitive values hidden and the others kept. -/
structure Redacted (sensitive : Str → Bool) (Same : Attribute Scalar → Attribute Scalar → Prop)
    (root result : Attribute Scalar) : Prop where
  hidden : Hidden sensitive result
  kept : ∀ path v, Plain sensitive path → At root path v → ∃ v', At result path v' ∧ Same v v'

/-- Sequences that are items of sequences hold nothing sensitive. -/
def NestedHidden (sensitive : Str → Bool) (root : Attribute Scalar) : Prop :=
  ∀ path i item, Plain sensitive path → At root (path ++ [.index i]) item → item.IsSequence →
    Hidden sensitive item

/-- No tuple stands under a key that redaction comes by. -/
def TupleFree (sensitive : Str → Bool) (root : Attribute Scalar) : Prop :=
  ∀ path k v, Plain sensitive (path ++ [.key k]) → Descended path →
    At root (path ++ [.key k]) v → ¬ v.IsTuple

end Requirement

section Hiding

variable {sensitive : Str → Bool}

theorem Hidden.below {v w : Attribute Scalar} {path : List Step} (h : Hidden sensitive v)
    (hAt : At v path w) : Hidden sensitive w := by
  intro inner k x hx hk
  apply h (path ++ inner) k x _ hk
  rw [List.append_assoc, at_append]
  exact ⟨w, hAt, hx⟩

theorem Hidden.child {v w : Attribute Scalar} {step : Step} (h : Hidden sensitive v)
    (hChild : Child v step w) : Hidden sensitive w := by
  have hAt : At v [step] w := ⟨w, hChild, rfl⟩
  exact h.below hAt

theorem NestedHidden.below {v child : Attribute Scalar} {step : Step}
    (h : NestedHidden sensitive v) (hChild : Child v step child)
    (hStep : ∀ k, step = .key k → sensitive k = false) : NestedHidden sensitive child := by
  intro path i item hPlain hAt hSequence
  exact h (step :: path) i item (plain_cons.mpr ⟨hStep, hPlain⟩) ⟨child, hChild, hAt⟩ hSequence

theorem not_at_mark {path : List Step} {step : Step} {x : Attribute Scalar} :
    ¬ At (mark : Attribute Scalar) (path ++ [step]) x := by
  intro h
  cases path with
  | nil =>
      obtain ⟨child, hChild, -⟩ := h
      cases hChild
  | cons first path =>
      obtain ⟨child, hChild, -⟩ := h
      cases hChild

/-- Redaction hides what no sequence inside a sequence holds. -/
theorem hidden_of_nested {v : Attribute Scalar} (h : NestedHidden sensitive v) :
    Hidden sensitive (redactValue sensitive v) := by
  intro path k x hAt hk
  induction path generalizing v with
  | nil =>
      obtain ⟨y, hChild, hx⟩ := hAt
      obtain ⟨child, -, hy⟩ := child_redactValue.mp hChild
      have hMark : y = mark := by simpa [hk] using hy
      exact hx.trans hMark
  | cons step path ih =>
      obtain ⟨y, hStep, hRest⟩ := hAt
      obtain ⟨child, hChild, hy⟩ := child_redactValue.mp hStep
      cases step with
      | key j =>
          cases hj : sensitive j with
          | true =>
              have hMark : y = mark := by simpa [hj] using hy
              exact (not_at_mark (hMark ▸ hRest)).elim
          | false =>
              have hValue : y = redactValue sensitive child := by simpa [hj] using hy
              apply ih (h.below hChild _) (hValue ▸ hRest)
              intro name hName
              cases hName
              exact hj
      | index i =>
          change y = redactItem sensitive child at hy
          by_cases hSequence : child.IsSequence
          · rw [redactItem_sequence hSequence] at hy
            have hClean : Hidden sensitive child :=
              h [] i child (fun _ hm => by cases hm) ⟨child, hChild, rfl⟩ hSequence
            exact hClean path k x (hy ▸ hRest) hk
          · rw [redactItem_single hSequence] at hy
            exact ih (h.below hChild fun _ hName => by cases hName) (hy ▸ hRest)

/-- What redaction leaves hidden was hidden in the sequences it does not enter. -/
theorem nested_of_hidden {v : Attribute Scalar} (h : Hidden sensitive (redactValue sensitive v)) :
    NestedHidden sensitive v := by
  intro path i item hPlain hAt hSequence
  induction path generalizing v with
  | nil =>
      obtain ⟨child, hChild, hItem⟩ := hAt
      have hStep : Child (redactValue sensitive v) (.index i) (redactItem sensitive child) :=
        child_redactValue.mpr ⟨child, hChild, rfl⟩
      cases hItem
      rw [redactItem_sequence hSequence] at hStep
      exact h.child hStep
  | cons step path ih =>
      obtain ⟨child, hChild, hRest⟩ := hAt
      obtain ⟨hFirst, hLater⟩ := plain_cons.mp hPlain
      cases step with
      | key j =>
          have hStep : Child (redactValue sensitive v) (.key j) (redactValue sensitive child) :=
            child_redactValue.mpr ⟨child, hChild, by simp [hFirst j rfl]⟩
          exact ih (h.child hStep) hLater hRest
      | index j =>
          have hStep : Child (redactValue sensitive v) (.index j) (redactItem sensitive child) :=
            child_redactValue.mpr ⟨child, hChild, rfl⟩
          have hBelow : Hidden sensitive (redactItem sensitive child) := h.child hStep
          by_cases hNested : child.IsSequence
          · rw [redactItem_sequence hNested] at hBelow
            exact hBelow.below hRest
          · rw [redactItem_single hNested] at hBelow
            exact ih hBelow hLater hRest

end Hiding

section Keeping

variable {sensitive : Str → Bool}

theorem sameShape_refl (v : Attribute Scalar) : SameShape v v := by
  cases v with
  | text value => rfl
  | scalar value => rfl
  | mapping entries => exact ⟨entries, rfl, rfl⟩
  | list items => exact ⟨items, .inl rfl, rfl⟩
  | tuple items => exact ⟨items, .inr rfl, rfl⟩

theorem sameShape_redactValue (v : Attribute Scalar) :
    SameShape v (redactValue sensitive v) := by
  cases v with
  | text value => rfl
  | scalar value => rfl
  | mapping entries =>
      refine ⟨redactBy sensitive entries, rfl, ?_⟩
      rw [redactBy_eq, List.map_map]
      rfl
  | list items =>
      refine ⟨redactItems sensitive items, .inl rfl, ?_⟩
      rw [redactItems_eq, List.length_map]
  | tuple items =>
      refine ⟨redactItems sensitive items, .inl rfl, ?_⟩
      rw [redactItems_eq, List.length_map]

/-- A value below keys that are not sensitive stands redacted or as it was at its
path, as it was when the path enters a sequence inside a sequence. -/
theorem at_redactValue {v x : Attribute Scalar} {path : List Step}
    (hPlain : Plain sensitive path) (hAt : At v path x) :
    At (redactValue sensitive v) path (redactValue sensitive x) ∨
      At (redactValue sensitive v) path x := by
  induction path generalizing v with
  | nil =>
      cases hAt
      exact .inl rfl
  | cons step path ih =>
      obtain ⟨child, hChild, hRest⟩ := hAt
      obtain ⟨hFirst, hLater⟩ := plain_cons.mp hPlain
      cases step with
      | key j =>
          have hStep : Child (redactValue sensitive v) (.key j) (redactValue sensitive child) :=
            child_redactValue.mpr ⟨child, hChild, by simp [hFirst j rfl]⟩
          exact (ih hLater hRest).imp (fun h => ⟨_, hStep, h⟩) fun h => ⟨_, hStep, h⟩
      | index j =>
          have hStep : Child (redactValue sensitive v) (.index j) (redactItem sensitive child) :=
            child_redactValue.mpr ⟨child, hChild, rfl⟩
          by_cases hNested : child.IsSequence
          · rw [redactItem_sequence hNested] at hStep
            exact .inr ⟨child, hStep, hRest⟩
          · rw [redactItem_single hNested] at hStep
            exact (ih hLater hRest).imp (fun h => ⟨_, hStep, h⟩) fun h => ⟨_, hStep, h⟩

theorem TupleFree.below {v child : Attribute Scalar} {step : Step} (h : TupleFree sensitive v)
    (hChild : Child v step child) (hPlain : ∀ k, step = .key k → sensitive k = false)
    (hEnter : ∀ i, step = .index i → ¬ child.IsSequence) : TupleFree sensitive child := by
  intro path k x hPath hDescended hAt
  apply h (step :: path) k x (plain_cons.mpr ⟨hPlain, hPath⟩) _ ⟨child, hChild, hAt⟩
  cases step with
  | key j => exact hDescended
  | index i =>
      cases path with
      | nil => trivial
      | cons first path =>
          cases first with
          | key j => exact hDescended
          | index j =>
              -- only a sequence has a value under an index
              obtain ⟨y, hFirst, -⟩ := hAt
              exact (hEnter i rfl hFirst.isSequence).elim

/-- A tuple that redaction does not come by under a key stays as it is. -/
theorem tuple_stays {v x : Attribute Scalar} {path : List Step} (hFree : TupleFree sensitive v)
    (hRoot : ¬ v.IsTuple) (hPlain : Plain sensitive path) (hAt : At v path x) (hx : x.IsTuple) :
    At (redactValue sensitive v) path x := by
  induction path generalizing v with
  | nil =>
      cases hAt
      exact (hRoot hx).elim
  | cons step path ih =>
      obtain ⟨child, hChild, hRest⟩ := hAt
      obtain ⟨hFirst, hLater⟩ := plain_cons.mp hPlain
      cases step with
      | key j =>
          have hStep : Child (redactValue sensitive v) (.key j) (redactValue sensitive child) :=
            child_redactValue.mpr ⟨child, hChild, by simp [hFirst j rfl]⟩
          have hTuple : ¬ child.IsTuple := by
            apply hFree [] j child _ trivial ⟨child, hChild, rfl⟩
            exact plain_cons.mpr ⟨hFirst, fun _ hm => by cases hm⟩
          have hBelow := hFree.below hChild hFirst fun i hName => by cases hName
          exact ⟨_, hStep, ih hBelow hTuple hLater hRest⟩
      | index j =>
          have hStep : Child (redactValue sensitive v) (.index j) (redactItem sensitive child) :=
            child_redactValue.mpr ⟨child, hChild, rfl⟩
          by_cases hNested : child.IsSequence
          · rw [redactItem_sequence hNested] at hStep
            exact ⟨child, hStep, hRest⟩
          · rw [redactItem_single hNested] at hStep
            have hTuple : ¬ child.IsTuple := by
              intro ht
              cases child with
              | tuple items => exact hNested trivial
              | text value => exact ht.elim
              | scalar value => exact ht.elim
              | mapping entries => exact ht.elim
              | list items => exact ht.elim
            exact ⟨_, hStep, ih (hFree.below hChild hFirst fun _ _ => hNested) hTuple hLater hRest⟩

theorem not_tuple_redactValue (v : Attribute Scalar) : ¬ (redactValue sensitive v).IsTuple := by
  cases v <;> exact id

/-- Under a key that redaction comes by, it leaves no tuple. -/
theorem not_tuple_at {v x : Attribute Scalar} {path : List Step} {k : Str}
    (hDescended : Descended path) (hAt : At (redactValue sensitive v) (path ++ [.key k]) x) :
    ¬ x.IsTuple := by
  induction path generalizing v with
  | nil =>
      obtain ⟨y, hStep, hx⟩ := hAt
      obtain ⟨child, -, hy⟩ := child_redactValue.mp hStep
      cases hx
      cases hk : sensitive k with
      | true =>
          have hMark : x = mark := by simpa [hk] using hy
          rw [hMark]
          exact id
      | false =>
          have hValue : x = redactValue sensitive child := by simpa [hk] using hy
          rw [hValue]
          exact not_tuple_redactValue child
  | cons step path ih =>
      obtain ⟨y, hStep, hRest⟩ := hAt
      obtain ⟨child, hChild, hy⟩ := child_redactValue.mp hStep
      cases step with
      | key j =>
          cases hj : sensitive j with
          | true =>
              have hMark : y = mark := by simpa [hj] using hy
              exact (not_at_mark (hMark ▸ hRest)).elim
          | false =>
              have hValue : y = redactValue sensitive child := by simpa [hj] using hy
              exact ih hDescended (hValue ▸ hRest)
      | index i =>
          change y = redactItem sensitive child at hy
          by_cases hNested : child.IsSequence
          · rw [redactItem_sequence hNested] at hy
            subst hy
            cases path with
            | nil =>
                obtain ⟨z, hLast, -⟩ := hRest
                cases hLast
                exact hNested.elim
            | cons first path =>
                cases first with
                | index j => exact hDescended.elim
                | key j =>
                    obtain ⟨z, hFirst, -⟩ := hRest
                    cases hFirst
                    exact hNested.elim
          · rw [redactItem_single hNested] at hy
            apply ih _ (hy ▸ hRest)
            cases path with
            | nil => trivial
            | cons first path =>
                cases first with
                | index j => exact hDescended.elim
                | key j => exact hDescended

end Keeping

section Exactness

variable (sensitive : Str → Bool)

theorem redactBy_redacted (attrs : List (Str × Attribute Scalar)) :
    Redacted sensitive SameShape (.mapping attrs) (.mapping (redactBy sensitive attrs)) ↔
      NestedHidden sensitive (.mapping attrs) := by
  constructor
  · intro h
    exact nested_of_hidden h.hidden
  · intro h
    refine ⟨hidden_of_nested h, ?_⟩
    intro path v hPlain hAt
    rcases at_redactValue hPlain hAt with hRedacted | hRaw
    · exact ⟨_, hRedacted, sameShape_redactValue v⟩
    · exact ⟨v, hRaw, sameShape_refl v⟩

theorem redactBy_redacted_exactly (attrs : List (Str × Attribute Scalar)) :
    Redacted sensitive SameValue (.mapping attrs) (.mapping (redactBy sensitive attrs)) ↔
      NestedHidden sensitive (.mapping attrs) ∧ TupleFree sensitive (.mapping attrs) := by
  constructor
  · intro h
    refine ⟨nested_of_hidden h.hidden, ?_⟩
    intro path k v hPlain hDescended hAt hTuple
    obtain ⟨v', hAt', -, hKept⟩ := h.kept _ v hPlain hAt
    exact not_tuple_at (v := .mapping attrs) hDescended hAt' (hKept hTuple)
  · rintro ⟨hNested, hFree⟩
    refine ⟨hidden_of_nested hNested, ?_⟩
    intro path v hPlain hAt
    by_cases hTuple : v.IsTuple
    · have hStays := tuple_stays hFree id hPlain hAt hTuple
      exact ⟨v, hStays, sameShape_refl v, id⟩
    · rcases at_redactValue hPlain hAt with hRedacted | hRaw
      · exact ⟨_, hRedacted, sameShape_redactValue v, fun h => (hTuple h).elim⟩
      · exact ⟨v, hRaw, sameShape_refl v, id⟩

/-- Both copies redact exactly the attributes with nothing sensitive in a sequence
inside a sequence; a tuple they come by under a key is a list afterwards. -/
theorem redactAttributes_redacts (attrs : List (Str × Attribute Scalar)) :
    (Redacted Gateway.isSensitiveKey SameShape (.mapping attrs)
        (.mapping (Gateway.redactAttributes attrs)) ↔
      NestedHidden Gateway.isSensitiveKey (.mapping attrs)) ∧
    (Redacted Product.isSensitiveKey SameShape (.mapping attrs)
        (.mapping (Product.redactAttributes attrs)) ↔
      NestedHidden Product.isSensitiveKey (.mapping attrs)) ∧
    (Redacted Gateway.isSensitiveKey SameValue (.mapping attrs)
        (.mapping (Gateway.redactAttributes attrs)) ↔
      NestedHidden Gateway.isSensitiveKey (.mapping attrs) ∧
        TupleFree Gateway.isSensitiveKey (.mapping attrs)) ∧
    (Redacted Product.isSensitiveKey SameValue (.mapping attrs)
        (.mapping (Product.redactAttributes attrs)) ↔
      NestedHidden Product.isSensitiveKey (.mapping attrs) ∧
        TupleFree Product.isSensitiveKey (.mapping attrs)) :=
  ⟨redactBy_redacted _ attrs, redactBy_redacted _ attrs, redactBy_redacted_exactly _ attrs,
    redactBy_redacted_exactly _ attrs⟩

/-- A password in a list of lists. -/
def nestedPassword : List (Str × Attribute Unit) :=
  [("a", .list [.list [.mapping [("password", .text "x")]]])]

/-- The password is still there. -/
theorem nestedPassword_survives :
    ¬ Redacted Gateway.isSensitiveKey SameShape (.mapping nestedPassword)
        (.mapping (Gateway.redactAttributes nestedPassword)) ∧
    ¬ Redacted Product.isSensitiveKey SameShape (.mapping nestedPassword)
        (.mapping (Product.redactAttributes nestedPassword)) := by
  have hKept : Gateway.redactAttributes nestedPassword = nestedPassword := by
    have hPlain : Gateway.isSensitiveKey (text "a") = false := by decide
    simp [Gateway.redactAttributes, nestedPassword, redactBy, redactValue, redactItems, hPlain]
  have hAt : At (.mapping nestedPassword)
      ([.key "a", .index 0, .index 0] ++ [.key "password"]) (.text (text "x")) :=
    ⟨_, .entry List.mem_cons_self, _, .listed rfl, _, .listed rfl, _,
      .entry List.mem_cons_self, rfl⟩
  have hNot : ∀ sensitive : Str → Bool, sensitive (text "password") = true →
      ¬ Hidden sensitive (.mapping nestedPassword) := by
    intro sensitive hKey hHidden
    have hMark := hHidden _ _ _ hAt hKey
    exact absurd hMark (by simp [mark])
  constructor
  · intro h
    exact hNot _ (by decide) (hKept ▸ h.hidden)
  · intro h
    exact hNot _ (by decide) (hKept ▸ h.hidden)

end Exactness

end CyreneExchange.Logging
