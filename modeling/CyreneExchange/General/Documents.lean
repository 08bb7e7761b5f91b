import Mathlib

/-! Documents of mappings and lists, nested to any depth. A place in a document
is named by the keys and indices that lead to it, and pruning a document of some
of its keys is described by what is found at every place afterwards. -/
namespace CyreneExchange.General

/-- A mapping, a list, or a value without parts. The entries of a mapping stand in
iteration order. -/
inductive Document (Key Leaf : Type) where
  | leaf (value : Leaf)
  | list (items : List (Document Key Leaf))
  | mapping (entries : List (Key × Document Key Leaf))

namespace Document

variable {Key Leaf : Type}

/-- One step down a document. -/
inductive Step (Key : Type) where
  | key (name : Key)
  | index (place : Nat)

/-- What is seen of a document without entering it. -/
inductive Look (Leaf : Type) where
  | leaf (value : Leaf)
  | list (length : Nat)
  | mapping

def look : Document Key Leaf → Look Leaf
  | .leaf value => .leaf value
  | .list items => .list items.length
  | .mapping _ => .mapping

section Places

variable [DecidableEq Key]

def child : Document Key Leaf → Step Key → Option (Document Key Leaf)
  | .mapping entries, .key name => entries.lookup name
  | .list items, .index place => items[place]?
  | _, _ => none

/-- What stands at the end of a path. -/
def find (d : Document Key Leaf) : List (Step Key) → Option (Document Key Leaf)
  | [] => some d
  | step :: path => (d.child step).bind fun c => c.find path

/-- The key stands in the document, at some depth. -/
def HasKey (d : Document Key Leaf) (name : Key) : Prop :=
  ∃ path c, d.find (path ++ [.key name]) = some c

/-- Some key of the path is one of those. -/
def enters (p : Key → Bool) (path : List (Step Key)) : Bool :=
  path.any fun
    | .key name => p name
    | .index _ => false

/-- `d[name] = c` on the entries of a mapping: a present key keeps its place. -/
def setEntry : List (Key × Document Key Leaf) → Key → Document Key Leaf →
    List (Key × Document Key Leaf)
  | [], name, c => [(name, c)]
  | entry :: rest, name, c =>
      if entry.1 = name then (name, c) :: rest else entry :: setEntry rest name c

end Places

section Keys

variable (p : Key → Bool)

mutual

/-- Some key of the document, at any depth, is one of those. -/
def anyKey : Document Key Leaf → Bool
  | .leaf _ => false
  | .list items => anyKeyItems items
  | .mapping entries => anyKeyEntries entries

def anyKeyItems : List (Document Key Leaf) → Bool
  | [] => false
  | item :: rest => anyKey item || anyKeyItems rest

def anyKeyEntries : List (Key × Document Key Leaf) → Bool
  | [] => false
  | (name, c) :: rest => p name || anyKey c || anyKeyEntries rest

end

mutual

/-- The document without the entries under those keys, at any depth. -/
def prune : Document Key Leaf → Document Key Leaf
  | .leaf value => .leaf value
  | .list items => .list (pruneItems items)
  | .mapping entries => .mapping (pruneEntries entries)

def pruneItems : List (Document Key Leaf) → List (Document Key Leaf)
  | [] => []
  | item :: rest => prune item :: pruneItems rest

def pruneEntries : List (Key × Document Key Leaf) → List (Key × Document Key Leaf)
  | [] => []
  | (name, c) :: rest =>
      if p name then pruneEntries rest else (name, prune c) :: pruneEntries rest

end

end Keys

section Finding

variable [DecidableEq Key] {d c : Document Key Leaf} {name : Key} {path rest : List (Step Key)}

@[simp] theorem find_nil : d.find [] = some d := rfl

@[simp] theorem find_cons {step : Step Key} :
    d.find (step :: path) = (d.child step).bind fun c => c.find path := rfl

end Finding

section Searching

variable {d c : Document Key Leaf} {p : Key → Bool} {name : Key}
  {entries : List (Key × Document Key Leaf)}

theorem anyKeyItems_of_mem {items : List (Document Key Leaf)} (hMem : c ∈ items)
    (h : anyKey p c = true) : anyKeyItems p items = true := by
  induction items with
  | nil => cases hMem
  | cons item rest ih =>
      rw [anyKeyItems, Bool.or_eq_true]
      rcases List.mem_cons.mp hMem with rfl | hRest
      · exact .inl h
      · exact .inr (ih hRest)

theorem anyKeyEntries_of_mem (hMem : (name, c) ∈ entries)
    (h : p name = true ∨ anyKey p c = true) : anyKeyEntries p entries = true := by
  induction entries with
  | nil => cases hMem
  | cons entry rest ih =>
      rw [anyKeyEntries, Bool.or_eq_true, Bool.or_eq_true]
      rcases List.mem_cons.mp hMem with rfl | hRest
      · exact .inl h
      · exact .inr (ih hRest)

variable [DecidableEq Key]

theorem mem_of_lookup (h : entries.lookup name = some c) : (name, c) ∈ entries := by
  obtain ⟨before, after, hSplit, -⟩ := List.lookup_eq_some_iff.mp h
  rw [hSplit]
  exact List.mem_append_right _ List.mem_cons_self

/-- A key below a child is a key of the document. -/
theorem anyKey_of_child {step : Step Key} (hChild : d.child step = some c)
    (h : anyKey p c = true) : anyKey p d = true := by
  cases d with
  | leaf value => cases step <;> cases hChild
  | list items =>
      cases step with
      | key name => cases hChild
      | index place => exact anyKeyItems_of_mem (List.mem_of_getElem? hChild) h
  | mapping entries =>
      cases step with
      | key name => exact anyKeyEntries_of_mem (mem_of_lookup hChild) (.inr h)
      | index place => cases hChild

/-- Every key of the document is come by. -/
theorem anyKey_of_hasKey (h : d.HasKey name) (hName : p name = true) : anyKey p d = true := by
  obtain ⟨path, c, hFound⟩ := h
  induction path generalizing d with
  | nil =>
      rw [List.nil_append, find_cons, Option.bind_eq_some_iff] at hFound
      obtain ⟨c', hChild, -⟩ := hFound
      cases d with
      | leaf value => cases hChild
      | list items => cases hChild
      | mapping entries => exact anyKeyEntries_of_mem (mem_of_lookup hChild) (.inl hName)
  | cons step path ih =>
      rw [List.cons_append, find_cons, Option.bind_eq_some_iff] at hFound
      obtain ⟨c', hChild, hRest⟩ := hFound
      exact anyKey_of_child hChild (ih hRest)

theorem not_hasKey_of_anyKey (h : anyKey p d = false) (hName : p name = true) :
    ¬ d.HasKey name := by
  intro hKey
  rw [anyKey_of_hasKey hKey hName] at h
  cases h

end Searching

section Pruning

variable {d c : Document Key Leaf} {p : Key → Bool} {name : Key} {path rest : List (Step Key)}

theorem enters_append : enters p (path ++ rest) = (enters p path || enters p rest) :=
  List.any_append

theorem pruneItems_eq_map (items : List (Document Key Leaf)) :
    pruneItems p items = items.map (prune p) := by
  induction items with
  | nil => rfl
  | cons item rest ih => rw [pruneItems, ih, List.map_cons]

/-- Pruning changes no value and no length. -/
theorem look_prune : (prune p d).look = d.look := by
  cases d with
  | leaf value => rfl
  | list items => rw [prune, pruneItems_eq_map, look, look, List.length_map]
  | mapping entries => rfl

variable [DecidableEq Key]

theorem lookup_pruneEntries (entries : List (Key × Document Key Leaf)) :
    (pruneEntries p entries).lookup name =
      if p name then none else (entries.lookup name).map (prune p) := by
  induction entries with
  | nil => simp [pruneEntries]
  | cons entry rest ih =>
      obtain ⟨k, c⟩ := entry
      rw [pruneEntries]
      by_cases hSame : name = k
      · subst hSame
        cases hName : p name with
        | true => rw [if_pos rfl, ih, hName, if_pos rfl, if_pos rfl]
        | false => simp
      · have hOther : (name == k) = false := by simpa using hSame
        rw [List.lookup_cons, hOther]
        split
        · exact ih
        · rw [List.lookup_cons, hOther]
          exact ih

theorem child_prune (step : Step Key) :
    (prune p d).child step = if enters p [step] then none else (d.child step).map (prune p) := by
  cases d with
  | leaf value => cases step <;> simp [prune, child]
  | list items =>
      cases step with
      | key name => simp [prune, child]
      | index place => simp [prune, child, enters, pruneItems_eq_map]
  | mapping entries =>
      cases step with
      | key name => simp [prune, child, enters, lookup_pruneEntries]
      | index place => simp [prune, child]

/-- What pruning leaves at every place. -/
theorem find_prune :
    (prune p d).find path = if enters p path then none else (d.find path).map (prune p) := by
  induction path generalizing d with
  | nil => rfl
  | cons step path ih =>
      have hEnters : enters p (step :: path) = (enters p [step] || enters p path) :=
        @enters_append _ p [step] path
      rw [find_cons, find_cons, child_prune, hEnters]
      cases enters p [step] with
      | true => rfl
      | false =>
          rw [if_neg Bool.false_ne_true, Bool.false_or]
          cases d.child step with
          | none => simp
          | some c => exact ih

end Pruning

section Setting

variable [DecidableEq Key] {name other : Key} {c : Document Key Leaf}
  {entries : List (Key × Document Key Leaf)} {path : List (Step Key)}

theorem lookup_setEntry_self : (setEntry entries name c).lookup name = some c := by
  induction entries with
  | nil => simp [setEntry]
  | cons entry rest ih =>
      rw [setEntry]
      split
      · simp
      · next hOther =>
          have hMiss : (name == entry.1) = false := by simpa using Ne.symm hOther
          rw [List.lookup_cons, hMiss]
          exact ih

theorem lookup_setEntry_of_ne (hOther : other ≠ name) :
    (setEntry entries name c).lookup other = entries.lookup other := by
  induction entries with
  | nil =>
      have hMiss : (other == name) = false := by simpa using hOther
      simp [setEntry, List.lookup_cons, hMiss]
  | cons entry rest ih =>
      have hMiss : (other == name) = false := by simpa using hOther
      rw [setEntry]
      split
      · next hSame => rw [List.lookup_cons, List.lookup_cons, hSame, hMiss]
      · rw [List.lookup_cons, List.lookup_cons, ih]

end Setting

end Document

end CyreneExchange.General
