import CyreneExchange.Integrations.Models

/-! The fixed reply texts of finished chat commands. -/
namespace CyreneExchange.Integrations

/-- `text[:n]`. -/
def clip (n : Nat) (text : String) : String := String.ofList (text.toList.take n)

mutual
/-- `str(value)` of a decoded JSON value; inside a container strings are
quoted as `repr` quotes plain text. -/
def Json.pyStr : Json → String
  | .null => "None"
  | .bool true => "True"
  | .bool false => "False"
  | .int n => toString n
  | .float repr => repr
  | .str s => s
  | .arr items => "[" ++ String.intercalate ", " (pyReprItems items) ++ "]"
  | .obj entries => "\x7b" ++ String.intercalate ", " (pyReprEntries entries) ++ "\x7d"

def Json.pyRepr : Json → String
  | .str s => "'" ++ s ++ "'"
  | .null => "None"
  | .bool true => "True"
  | .bool false => "False"
  | .int n => toString n
  | .float repr => repr
  | .arr items => "[" ++ String.intercalate ", " (pyReprItems items) ++ "]"
  | .obj entries => "\x7b" ++ String.intercalate ", " (pyReprEntries entries) ++ "\x7d"

def pyReprItems : List Json → List String
  | [] => []
  | v :: rest => v.pyRepr :: pyReprItems rest

def pyReprEntries : List (String × Json) → List String
  | [] => []
  | (k, v) :: rest => ("'" ++ k ++ "': " ++ v.pyRepr) :: pyReprEntries rest
end

/-- `str(evidence.get(key, default))[:n]`. -/
def evidenceText (evidence : JsonObject) (key default : String) (n : Nat) : String :=
  clip n (match evidence.get key with
    | some value => value.pyStr
    | none => default)

/-- Bounded deterministic reply from explicit provider evidence. -/
def renderIssueCommandResult (operation : Operation) (repositoryName : String) (state : JobState)
    (evidence : JsonObject) : String :=
  let issue := repositoryName ++ "#" ++ toString operation.issueNumber
  if state = .unknown then
    "The result for " ++ issue ++ " is unknown. No automatic retry was made."
  else if state = .failed then
    "The requested operation for " ++ issue ++ " did not complete."
  else if state = .accepted then
    "The requested operation for " ++ issue ++ " was accepted; completion is unconfirmed."
  else match operation.operationId with
    | .query =>
        let title := evidenceText evidence "title" "" 500
        let issueState := evidenceText evidence "state" "unknown" 40
        clip 1500 (issue ++ " is " ++ issueState ++ ": " ++ title)
    | .comment => "Comment on " ++ issue ++ " was confirmed."
    | _ =>
        issue ++ " state change was confirmed: " ++
          evidenceText evidence "state" "confirmed" 40 ++ "."

end CyreneExchange.Integrations
