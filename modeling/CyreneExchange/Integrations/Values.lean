import Mathlib

/-! Values shared by the integration store and the connector routes. -/
namespace CyreneExchange.Integrations

/-- `str(uuid)`: the canonical text of a UUID always has 36 characters. -/
structure UUID where
  text : String
  canonical : text.length = 36
deriving DecidableEq, Repr

/-- An aware datetime, as microseconds since the epoch. -/
abbrev Timestamp := Int

/-- `timedelta(seconds=n)`. -/
def seconds (n : Int) : Timestamp := n * 1000000

/-- A value decoded from JSON. A Python float is kept as its `repr`. -/
inductive Json where
  | null
  | bool (value : Bool)
  | int (value : Int)
  | float (repr : String)
  | str (value : String)
  | arr (items : List Json)
  | obj (entries : List (String × Json))
deriving Repr

/-- A `dict` with string keys. -/
abbrev JsonObject := List (String × Json)

namespace JsonObject

/-- `d.get(key)`. -/
def get (d : JsonObject) (key : String) : Option Json := d.lookup key

/-- `key in d`. -/
def has (d : JsonObject) (key : String) : Bool := (d.get key).isSome

/-- `{**first, **second}`: later entries win, first positions stay. -/
def merge (first second : JsonObject) : JsonObject :=
  first.map (fun entry => (entry.1, (second.get entry.1).getD entry.2)) ++
    second.filter (fun entry => !first.has entry.1)

end JsonObject

namespace Json

/-- The two-character and \u00XX escapes of `json.dumps(ensure_ascii=False)`. -/
def escapeChar (c : Char) : String :=
  if c = '"' then "\\\""
  else if c = '\\' then "\\\\"
  else if c = '\n' then "\\n"
  else if c = '\r' then "\\r"
  else if c = '\t' then "\\t"
  else if c.toNat = 8 then "\\b"
  else if c.toNat = 12 then "\\f"
  else if c.toNat < 32 then
    "\\u00" ++ String.ofList [Nat.digitChar (c.toNat / 16), Nat.digitChar (c.toNat % 16)]
  else c.toString

def quote (s : String) : String := "\"" ++ String.join (s.toList.map escapeChar) ++ "\""

mutual
/-- `_json`: compact separators and sorted keys. -/
def dumps : Json → String
  | .null => "null"
  | .bool true => "true"
  | .bool false => "false"
  | .int n => toString n
  | .float repr => repr
  | .str s => quote s
  | .arr items => "[" ++ String.intercalate "," (dumpsItems items) ++ "]"
  | .obj entries =>
      let rendered := dumpsEntries entries
      let sorted := rendered.insertionSort (fun a b => ¬ b.1 < a.1)
      "\x7b" ++ String.intercalate "," (sorted.map fun e => quote e.1 ++ ":" ++ e.2) ++ "\x7d"

def dumpsItems : List Json → List String
  | [] => []
  | v :: rest => dumps v :: dumpsItems rest

def dumpsEntries : List (String × Json) → List (String × String)
  | [] => []
  | (k, v) :: rest => (k, dumps v) :: dumpsEntries rest
end

/-- `isinstance(value, str)`. -/
def asStr : Json → Option String
  | .str s => some s
  | _ => none

/-- `isinstance(value, Mapping)`. -/
def asObj : Json → Option JsonObject
  | .obj d => some d
  | _ => none

end Json

/-- A JSON string, or null for an absent one. -/
def optionalText : Option String → Json
  | none => .null
  | some s => .str s

/-- Python truth of an optional string: present and not empty. -/
def truthy : Option String → Bool
  | none => false
  | some s => s != ""

/-- `value or default` for an optional string. -/
def orElse (value : Option String) (default : String) : String :=
  match value with
  | some s => if s = "" then default else s
  | none => default

/-- `value not in (None, expected)`. -/
def conflictsWith {α : Type} [DecidableEq α] (value : Option α) (expected : α) : Bool :=
  match value with
  | none => false
  | some v => v != expected

/-- `str.isspace` of one character. -/
def pySpace (c : Char) : Bool :=
  let n := c.toNat
  (decide (9 ≤ n) && decide (n ≤ 13)) || (decide (28 ≤ n) && decide (n ≤ 32)) || n == 0x85 ||
    n == 0xa0 || n == 0x1680 || (decide (0x2000 ≤ n) && decide (n ≤ 0x200a)) || n == 0x2028 ||
    n == 0x2029 || n == 0x202f || n == 0x205f || n == 0x3000

/-- `str.strip()`. -/
def strip (text : String) : String :=
  String.ofList (((text.toList.dropWhile pySpace).reverse.dropWhile pySpace).reverse)

/-- Organization, workspace and verified actor: the columns every scoped
statement compares. -/
structure ActorScope where
  organizationId : String
  workspaceId : String
  actorIssuer : String
  actorSubject : String
deriving DecidableEq, Repr

/-- Verified Platform identity and its exact operation grants. -/
structure IntegrationPrincipal where
  issuer : String
  subject : String
  organizationId : String
  workspaceId : String
  allowedOperationIds : List String
  expiresAt : Option Timestamp := none
deriving DecidableEq, Repr

/-- `_scope(principal)`. -/
def IntegrationPrincipal.scope (principal : IntegrationPrincipal) : ActorScope :=
  ⟨principal.organizationId, principal.workspaceId, principal.issuer, principal.subject⟩

/-- `str.startswith`. -/
def startsWith (s lead : String) : Bool := lead.toList.isPrefixOf s.toList

theorem UUID.ext_text {a b : UUID} (h : a.text = b.text) : a = b := by
  cases a
  cases b
  cases h
  rfl

/-- Texts that end in a UUID determine that UUID, whatever comes before. -/
theorem UUID.eq_of_append_eq {x y : String} {a b : UUID} (h : x ++ a.text = y ++ b.text) :
    a = b := by
  apply UUID.ext_text
  have hLists : x.toList ++ a.text.toList = y.toList ++ b.text.toList := by
    simpa using congrArg String.toList h
  have hLength : a.text.toList.length = b.text.toList.length := by
    rw [String.length_toList, String.length_toList, a.canonical, b.canonical]
  exact String.toList_inj.mp (List.append_inj' hLists hLength).2

theorem append_inj_of_length {a b x y : String} (h : a ++ x = b ++ y)
    (hLength : a.length = b.length) : a = b ∧ x = y := by
  have hLists : a.toList ++ x.toList = b.toList ++ y.toList := by
    simpa using congrArg String.toList h
  have hParts := List.append_inj hLists (by rw [String.length_toList, String.length_toList, hLength])
  exact ⟨String.toList_inj.mp hParts.1, String.toList_inj.mp hParts.2⟩

theorem append_cancel_left {a x y : String} (h : a ++ x = a ++ y) : x = y :=
  (append_inj_of_length h rfl).2

/-- Texts that start with a UUID determine that UUID and what comes after. -/
theorem UUID.text_append_inj {a b : UUID} {x y : String} (h : a.text ++ x = b.text ++ y) :
    a = b ∧ x = y := by
  obtain ⟨hText, hRest⟩ := append_inj_of_length h (a.canonical.trans b.canonical.symm)
  exact ⟨UUID.ext_text hText, hRest⟩

end CyreneExchange.Integrations
