import CyreneExchange.Integrations.Canonical
import CyreneExchange.Product.Domain

/-! The canonical bodies that idempotency hashes: the JSON text of a command
with its fields in order, told apart from every other body by its text. -/
namespace CyreneExchange.Product

open Integrations (Json JsonObject UUID Timestamp CollisionFree)
open Integrations.Json (isScalar readScalar readScalar_dumps Stops escaped toList_quote
  readQuoted readQuoted_escaped)

section Compact

mutual
/-- A JSON text with compact separators and the entries in the order given. -/
def compact : Json → String
  | .arr items => "[" ++ String.intercalate "," (compactItems items) ++ "]"
  | .obj entries => "\x7b" ++ String.intercalate "," (compactEntries entries) ++ "\x7d"
  | .null => "null"
  | .bool value => Json.dumps (.bool value)
  | .int n => Json.dumps (.int n)
  | .float repr => repr
  | .str s => Json.quote s

def compactItems : List Json → List String
  | [] => []
  | v :: rest => compact v :: compactItems rest

def compactEntries : List (String × Json) → List String
  | [] => []
  | (k, v) :: rest => (Json.quote k ++ ":" ++ compact v) :: compactEntries rest
end

mutual
/-- A value without floats. -/
def plain : Json → Bool
  | .arr items => plainItems items
  | .obj entries => plainEntries entries
  | .float _ => false
  | .null | .bool _ | .int _ | .str _ => true

def plainItems : List Json → Bool
  | [] => true
  | v :: rest => plain v && plainItems rest

def plainEntries : List (String × Json) → Bool
  | [] => true
  | (_, v) :: rest => plain v && plainEntries rest
end

/-- The rest of an array after one of its items. -/
def closingItems : List Json → List Char
  | [] => [']']
  | v :: rest => ',' :: ((compact v).toList ++ closingItems rest)

/-- The rest of an object after one of its entries. -/
def closingEntries : List (String × Json) → List Char
  | [] => ['\x7d']
  | (k, v) :: rest => ',' :: '"' :: (escaped k ++ '"' :: ':' :: ((compact v).toList ++
      closingEntries rest))

theorem closingItems_stops (items : List Json) (rest : List Char) :
    Stops (closingItems items ++ rest) := by
  cases items <;> simp [Stops, closingItems, Char.isDigit]

theorem closingEntries_stops (entries : List (String × Json)) (rest : List Char) :
    Stops (closingEntries entries ++ rest) := by
  cases entries <;> simp [Stops, closingEntries, Char.isDigit]

theorem toList_intercalate_items (v : Json) (items : List Json) :
    (String.intercalate "," (compactItems (v :: items))).toList ++ [']'] =
      (compact v).toList ++ closingItems items := by
  induction items generalizing v with
  | nil => simp [compactItems, closingItems]
  | cons next rest ih =>
      have hNext := ih next
      rw [compactItems] at hNext ⊢
      rw [compactItems, String.intercalate_cons_cons, String.toList_append, String.toList_append,
        List.append_assoc, List.append_assoc, hNext, closingItems]
      rfl

theorem toList_intercalate_entries (k : String) (v : Json) (entries : List (String × Json)) :
    (String.intercalate "," (compactEntries ((k, v) :: entries))).toList ++ ['\x7d'] =
      '"' :: (escaped k ++ '"' :: ':' :: ((compact v).toList ++ closingEntries entries)) := by
  induction entries generalizing k v with
  | nil => simp [compactEntries, closingEntries, toList_quote]
  | cons next rest ih =>
      obtain ⟨k', v'⟩ := next
      have hNext := ih k' v'
      rw [compactEntries] at hNext ⊢
      rw [compactEntries, String.intercalate_cons_cons, String.toList_append, String.toList_append,
        List.append_assoc, List.append_assoc, hNext, closingEntries]
      simp [toList_quote]

theorem toList_compact_arr (v : Json) (items : List Json) :
    (compact (.arr (v :: items))).toList = '[' :: ((compact v).toList ++ closingItems items) := by
  rw [compact, String.toList_append, String.toList_append, List.append_assoc]
  exact congrArg ('[' :: ·) (toList_intercalate_items v items)

theorem toList_compact_obj (k : String) (v : Json) (entries : List (String × Json)) :
    (compact (.obj ((k, v) :: entries))).toList =
      '\x7b' :: '"' :: (escaped k ++ '"' :: ':' :: ((compact v).toList ++
        closingEntries entries)) := by
  rw [compact, String.toList_append, String.toList_append, List.append_assoc]
  exact congrArg ('\x7b' :: ·) (toList_intercalate_entries k v entries)

theorem compact_of_isScalar {v : Json} (h : v.isScalar = true) : compact v = Json.dumps v := by
  cases v with
  | arr items => cases h
  | obj entries => cases h
  | float repr => cases h
  | null => rfl
  | bool value => rw [compact]
  | int n => rw [compact]
  | str s => rw [compact, Json.dumps]

/-- A plain value is a scalar, an array or an object. -/
theorem plain_cases {v : Json} (h : plain v = true) :
    v.isScalar = true ∨ (∃ items, v = .arr items) ∨ ∃ entries, v = .obj entries := by
  cases v with
  | arr items => exact Or.inr (Or.inl ⟨items, rfl⟩)
  | obj entries => exact Or.inr (Or.inr ⟨entries, rfl⟩)
  | float repr => cases h
  | null | bool | int | str => exact Or.inl rfl

/-- The text of a scalar opens no array or object and closes no array. -/
theorem scalar_ne_bracket {v : Json} (h : v.isScalar = true) {rest tail : List Char}
    (hStops : Stops rest) {c : Char} (hc : c = '[' ∨ c = '\x7b' ∨ c = ']') :
    (Json.dumps v).toList ++ rest ≠ c :: tail := by
  intro hSame
  have hRead := readScalar_dumps h hStops
  rw [hSame] at hRead
  have hZero : readScalar (c :: tail) = some (.int 0, c :: tail) := by
    rcases hc with rfl | rfl | rfl <;> rfl
  rw [hZero, Option.some.injEq, Prod.mk.injEq] at hRead
  obtain ⟨rfl, rfl⟩ := hRead
  have hLength := congrArg List.length hSame
  have hOne : (Json.dumps (.int 0)).toList.length = 1 := by rw [Json.dumps]; rfl
  rw [List.length_append, hOne] at hLength
  omega

/-- Every array text opens with a bracket. -/
theorem exists_toList_arr (items : List Json) :
    ∃ tail, (compact (.arr items)).toList = '[' :: tail := by
  cases items with
  | nil => exact ⟨[']'], by rw [compact, compactItems]; rfl⟩
  | cons v rest => exact ⟨_, toList_compact_arr v rest⟩

theorem exists_toList_obj (entries : List (String × Json)) :
    ∃ tail, (compact (.obj entries)).toList = '\x7b' :: tail := by
  cases entries with
  | nil => exact ⟨['\x7d'], by rw [compact, compactEntries]; rfl⟩
  | cons e rest => exact ⟨_, toList_compact_obj e.1 e.2 rest⟩

theorem ne_closing {v : Json} (hPlain : plain v = true) {rest tail : List Char}
    (hStops : Stops rest) : (compact v).toList ++ rest ≠ ']' :: tail := by
  rcases plain_cases hPlain with hScalar | ⟨items, rfl⟩ | ⟨entries, rfl⟩
  · rw [compact_of_isScalar hScalar]
    exact scalar_ne_bracket hScalar hStops (Or.inr (Or.inr rfl))
  · obtain ⟨tail', hOpen⟩ := exists_toList_arr items
    rw [hOpen]
    exact fun h => absurd (List.cons.inj h).1 (by decide)
  · obtain ⟨tail', hOpen⟩ := exists_toList_obj entries
    rw [hOpen]
    exact fun h => absurd (List.cons.inj h).1 (by decide)

theorem scalar_append_inj {v v' : Json} (hScalar : v.isScalar = true) (hPlain' : plain v' = true)
    {rest rest' : List Char} (hStops : Stops rest) (hStops' : Stops rest')
    (h : (compact v).toList ++ rest = (compact v').toList ++ rest') : v = v' ∧ rest = rest' := by
  rw [compact_of_isScalar hScalar] at h
  rcases plain_cases hPlain' with hScalar' | ⟨items', rfl⟩ | ⟨entries', rfl⟩
  · rw [compact_of_isScalar hScalar'] at h
    have hRead := readScalar_dumps hScalar hStops
    rw [h, readScalar_dumps hScalar' hStops', Option.some.injEq, Prod.mk.injEq] at hRead
    exact ⟨hRead.1.symm, hRead.2.symm⟩
  · obtain ⟨tail', hOpen⟩ := exists_toList_arr items'
    rw [hOpen] at h
    exact absurd h (scalar_ne_bracket hScalar hStops (Or.inl rfl))
  · obtain ⟨tail', hOpen⟩ := exists_toList_obj entries'
    rw [hOpen] at h
    exact absurd h (scalar_ne_bracket hScalar hStops (Or.inr (Or.inl rfl)))

/-- A quoted key and what follows its colon. -/
theorem key_append_inj {k k' : String} {rest rest' : List Char}
    (h : escaped k ++ '"' :: ':' :: rest = escaped k' ++ '"' :: ':' :: rest') :
    k = k' ∧ rest = rest' := by
  have hKey := congrArg readQuoted h
  rw [readQuoted_escaped, readQuoted_escaped, Option.some.injEq, Prod.mk.injEq,
    List.cons.injEq] at hKey
  exact ⟨String.toList_inj.mp hKey.1, hKey.2.2⟩

mutual
/-- A plain value and what follows it can be read off the text. -/
theorem compact_append_inj (v v' : Json) (hPlain : plain v = true) (hPlain' : plain v' = true)
    {rest rest' : List Char} (hStops : Stops rest) (hStops' : Stops rest')
    (h : (compact v).toList ++ rest = (compact v').toList ++ rest') : v = v' ∧ rest = rest' := by
  match v with
  | .arr items =>
      rcases plain_cases hPlain' with hScalar' | ⟨items', rfl⟩ | ⟨entries', rfl⟩
      · obtain ⟨hSame, hRest⟩ := scalar_append_inj hScalar' hPlain hStops' hStops h.symm
        exact ⟨hSame.symm, hRest.symm⟩
      · cases items with
        | nil =>
            cases items' with
            | nil => exact ⟨rfl, List.append_cancel_left h⟩
            | cons w ws =>
                simp only [plain, plainItems, Bool.and_eq_true] at hPlain'
                rw [toList_compact_arr, List.cons_append, List.append_assoc] at h
                exact absurd (List.cons.inj h).2.symm
                  (ne_closing hPlain'.1 (closingItems_stops ws rest'))
        | cons u us =>
            simp only [plain, plainItems, Bool.and_eq_true] at hPlain
            rw [toList_compact_arr, List.cons_append, List.append_assoc] at h
            cases items' with
            | nil =>
                exact absurd (List.cons.inj h).2 (ne_closing hPlain.1 (closingItems_stops us rest))
            | cons w ws =>
                simp only [plain, plainItems, Bool.and_eq_true] at hPlain'
                rw [toList_compact_arr, List.cons_append, List.append_assoc] at h
                obtain ⟨rfl, hTail⟩ := compact_append_inj u w hPlain.1 hPlain'.1
                  (closingItems_stops us rest) (closingItems_stops ws rest') (List.cons.inj h).2
                obtain ⟨rfl, hRest⟩ := closingItems_inj us ws hPlain.2 hPlain'.2 hTail
                exact ⟨rfl, hRest⟩
      · obtain ⟨tail, hOpen⟩ := exists_toList_arr items
        obtain ⟨tail', hOpen'⟩ := exists_toList_obj entries'
        rw [hOpen, hOpen'] at h
        exact absurd (List.cons.inj h).1 (by decide)
  | .obj entries =>
      rcases plain_cases hPlain' with hScalar' | ⟨items', rfl⟩ | ⟨entries', rfl⟩
      · obtain ⟨hSame, hRest⟩ := scalar_append_inj hScalar' hPlain hStops' hStops h.symm
        exact ⟨hSame.symm, hRest.symm⟩
      · obtain ⟨tail, hOpen⟩ := exists_toList_obj entries
        obtain ⟨tail', hOpen'⟩ := exists_toList_arr items'
        rw [hOpen, hOpen'] at h
        exact absurd (List.cons.inj h).1 (by decide)
      · cases entries with
        | nil =>
            cases entries' with
            | nil => exact ⟨rfl, List.append_cancel_left h⟩
            | cons e' es' =>
                rw [toList_compact_obj] at h
                exact absurd (List.cons.inj (List.cons.inj h).2).1 (by decide)
        | cons e es =>
            obtain ⟨k, u⟩ := e
            rw [toList_compact_obj] at h
            simp only [plain, plainEntries, Bool.and_eq_true] at hPlain
            cases entries' with
            | nil => exact absurd (List.cons.inj (List.cons.inj h).2).1 (by decide)
            | cons e' es' =>
                obtain ⟨k', w⟩ := e'
                simp only [plain, plainEntries, Bool.and_eq_true] at hPlain'
                rw [toList_compact_obj] at h
                simp only [List.cons_append, List.append_assoc, List.cons.injEq, true_and] at h
                obtain ⟨rfl, hValue⟩ := key_append_inj h
                obtain ⟨rfl, hTail⟩ := compact_append_inj u w hPlain.1 hPlain'.1
                  (closingEntries_stops es rest) (closingEntries_stops es' rest') hValue
                obtain ⟨rfl, hRest⟩ := closingEntries_inj es es' hPlain.2 hPlain'.2 hTail
                exact ⟨rfl, hRest⟩
  | .null => exact scalar_append_inj rfl hPlain' hStops hStops' h
  | .bool value => exact scalar_append_inj rfl hPlain' hStops hStops' h
  | .int n => exact scalar_append_inj rfl hPlain' hStops hStops' h
  | .str s => exact scalar_append_inj rfl hPlain' hStops hStops' h

theorem closingItems_inj (items items' : List Json) (hPlain : plainItems items = true)
    (hPlain' : plainItems items' = true) {rest rest' : List Char}
    (h : closingItems items ++ rest = closingItems items' ++ rest') :
    items = items' ∧ rest = rest' := by
  match items, items' with
  | [], [] => exact ⟨rfl, List.append_cancel_left h⟩
  | [], _ :: _ => exact absurd (List.cons.inj h).1 (by decide)
  | _ :: _, [] => exact absurd (List.cons.inj h).1 (by decide)
  | u :: us, w :: ws =>
      simp only [plainItems, Bool.and_eq_true] at hPlain hPlain'
      simp only [closingItems, List.cons_append, List.append_assoc, List.cons.injEq,
        true_and] at h
      obtain ⟨rfl, hTail⟩ := compact_append_inj u w hPlain.1 hPlain'.1
        (closingItems_stops us rest) (closingItems_stops ws rest') h
      obtain ⟨rfl, hRest⟩ := closingItems_inj us ws hPlain.2 hPlain'.2 hTail
      exact ⟨rfl, hRest⟩

theorem closingEntries_inj (entries entries' : List (String × Json))
    (hPlain : plainEntries entries = true) (hPlain' : plainEntries entries' = true)
    {rest rest' : List Char}
    (h : closingEntries entries ++ rest = closingEntries entries' ++ rest') :
    entries = entries' ∧ rest = rest' := by
  match entries, entries' with
  | [], [] => exact ⟨rfl, List.append_cancel_left h⟩
  | [], _ :: _ => exact absurd (List.cons.inj h).1 (by decide)
  | _ :: _, [] => exact absurd (List.cons.inj h).1 (by decide)
  | (k, u) :: es, (k', w) :: es' =>
      simp only [plainEntries, Bool.and_eq_true] at hPlain hPlain'
      simp only [closingEntries, List.cons_append, List.append_assoc, List.cons.injEq,
        true_and] at h
      obtain ⟨rfl, hValue⟩ := key_append_inj h
      obtain ⟨rfl, hTail⟩ := compact_append_inj u w hPlain.1 hPlain'.1
        (closingEntries_stops es rest) (closingEntries_stops es' rest') hValue
      obtain ⟨rfl, hRest⟩ := closingEntries_inj es es' hPlain.2 hPlain'.2 hTail
      exact ⟨rfl, hRest⟩
end

/-- Plain values are told apart by their texts. -/
theorem compact_inj {v v' : Json} (hPlain : plain v = true) (hPlain' : plain v' = true)
    (h : compact v = compact v') : v = v' := by
  have hStops : Stops [] := by simp [Stops]
  exact (@compact_append_inj v v' hPlain hPlain' [] [] hStops hStops (by rw [h])).1

end Compact

/-- What the code takes from its platform: `sha256(…).hexdigest()`, and the
float arithmetic between datetimes and Unix milliseconds. -/
structure Host where
  hexdigest : String → String
  length_hexdigest : ∀ text, (hexdigest text).length = 64
  toUnixMs : Timestamp → Int
  fromUnixMs : Int → Timestamp

/-- An entry that `exclude_none` drops. -/
def optionalEntry (key : String) : Option Json → JsonObject
  | none => []
  | some value => [(key, value)]

def CreateEndpointRequest.body (command : CreateEndpointRequest) : Json :=
  .obj [("name", .str command.name.text), ("publicBaseUrl", .str command.publicBaseUrl.text),
    ("authPolicyRef", .str command.authPolicyRef.text)]

/-- The entries that the route commands share; `target_model` may be absent. -/
def routeEntries (endpointId : UUID) (modelPattern : Text 1 200) (targetBindingId : Text 1 300)
    (targetModel : Option (Text 1 200)) (priority : Priority) : JsonObject :=
  [("endpointId", .str endpointId.text), ("modelPattern", .str modelPattern.text),
      ("targetBindingId", .str targetBindingId.text)] ++
    optionalEntry "targetModel" (targetModel.map fun model => .str model.text) ++
    [("priority", .int priority.val)]

def RouteSource.body (source : RouteSource) : Json :=
  .obj ([("product", .str "reactor"), ("resourceUri", .str source.resourceUri.text),
      ("resourceVersion", .int source.resourceVersion),
      ("artifactDigest", .str source.artifactDigest.text)] ++
    optionalEntry "modelVersionId" (source.modelVersionId.map fun version => .str version.text))

def CreateRouteRequest.body (command : CreateRouteRequest) : Json :=
  .obj (routeEntries command.endpointId command.modelPattern command.targetBindingId
    command.targetModel command.priority)

def CreateRouteDraftRequest.body (command : CreateRouteDraftRequest) : Json :=
  .obj (routeEntries command.endpointId command.modelPattern command.targetBindingId
      (some command.targetModel) command.priority ++
    [("source", command.source.body)])

def CreateWorkspaceRouteDraftRequest.body (command : CreateWorkspaceRouteDraftRequest) : Json :=
  .obj (routeEntries command.endpointId command.modelPattern command.targetBindingId
      (some command.targetModel) command.priority ++
    [("sourceEndpoint", .obj [("product", .str "reactor"),
      ("endpointId", .str command.sourceEndpoint.endpointId.text),
      ("resourceVersion", .int command.sourceEndpoint.resourceVersion)])])

def CreateWorkspaceBindingRouteDraftRequest.body
    (command : CreateWorkspaceBindingRouteDraftRequest) : Json :=
  .obj (routeEntries command.endpointId command.modelPattern command.targetBindingId
    (some command.targetModel) command.priority)

def CreateApiKeyRequest.body (command : CreateApiKeyRequest) : Json :=
  .obj ([("name", .str command.name.text)] ++
    optionalEntry "expiresAt" (command.expiresAt.map fun expiry => .str expiry.text) ++
    [("modelScope", .arr (command.modelScope.map .str))])

/-- `request_hash`. -/
def requestHash (host : Host) (body : Json) : String := host.hexdigest (compact body)

/-- A request hash and the parts of the principal bound to it, NUL-separated. -/
def digestSource (host : Host) (body : Json) (parts : List String) : String :=
  requestHash host body ++ String.join (parts.map fun part => "\x00" ++ part)

section Digests

variable {host : Host} {body body' : Json} {parts parts' : List String}

/-- The digest of a request covers its body, whoever sends it. -/
theorem requestHash_of_digestSource
    (h : digestSource host body parts = digestSource host body' parts') :
    requestHash host body = requestHash host body' := by
  have hLists := congrArg String.toList h
  simp only [digestSource, String.toList_append] at hLists
  apply String.toList_inj.mp
  apply (List.append_inj hLists _).1
  rw [String.length_toList, String.length_toList]
  exact (host.length_hexdigest _).trans (host.length_hexdigest _).symm

theorem plainItems_map_str (items : List String) : plainItems (items.map .str) = true := by
  induction items with
  | nil => rfl
  | cons text rest ih => simp [plainItems, plain, ih]

theorem plainEntries_append (first second : JsonObject) :
    plainEntries (first ++ second) = (plainEntries first && plainEntries second) := by
  induction first with
  | nil => simp [plainEntries]
  | cons e rest ih => simp [plainEntries, ih, Bool.and_assoc]

theorem plainEntries_optionalEntry {α : Type} (key : String) (value : Option α)
    (f : α → String) : plainEntries (optionalEntry key (value.map fun a => .str (f a))) = true := by
  cases value <;> rfl

theorem plainEntries_routeEntries (endpointId : UUID) (modelPattern : Text 1 200)
    (targetBindingId : Text 1 300) (targetModel : Option (Text 1 200)) (priority : Priority) :
    plainEntries (routeEntries endpointId modelPattern targetBindingId targetModel priority) =
      true := by
  simp only [routeEntries, plainEntries_append, plainEntries_optionalEntry]
  rfl

theorem plain_endpoint (command : CreateEndpointRequest) : plain command.body = true := rfl

theorem plain_route (command : CreateRouteRequest) : plain command.body = true :=
  plainEntries_routeEntries _ _ _ _ _

theorem plain_routeDraft (command : CreateRouteDraftRequest) : plain command.body = true := by
  simp only [CreateRouteDraftRequest.body, RouteSource.body, plain, plainEntries_append,
    plainEntries_routeEntries, plainEntries, plainEntries_optionalEntry]
  rfl

theorem plain_workspaceRouteDraft (command : CreateWorkspaceRouteDraftRequest) :
    plain command.body = true := by
  simp only [CreateWorkspaceRouteDraftRequest.body, plain, plainEntries_append,
    plainEntries_routeEntries, plainEntries]
  rfl

theorem plain_workspaceBindingRouteDraft (command : CreateWorkspaceBindingRouteDraftRequest) :
    plain command.body = true :=
  plainEntries_routeEntries _ _ _ _ _

theorem plain_apiKey (command : CreateApiKeyRequest) : plain command.body = true := by
  simp only [CreateApiKeyRequest.body, plain, plainEntries_append, plainEntries,
    plainEntries_optionalEntry, plainItems_map_str]
  rfl

/-- Bodies with the same request hash are the same body. -/
theorem body_eq_of_requestHash {texts : List String} (hFree : CollisionFree host.hexdigest texts)
    (hMem : compact body ∈ texts) (hMem' : compact body' ∈ texts) (hPlain : plain body = true)
    (hPlain' : plain body' = true) (h : requestHash host body = requestHash host body') :
    body = body' :=
  compact_inj hPlain hPlain' (hFree _ hMem _ hMem' h)

end Digests

end CyreneExchange.Product
