import CyreneExchange.Integrations.Commands
import CyreneExchange.Integrations.Connector.Store

/-! From a provider result to the outcome a Navigator invocation answers with.
RFC 8785 serialization is a parameter that may refuse a value. -/
namespace CyreneExchange.Integrations

/-- `str.upper()` of one character, as far as the result is ASCII: a character
whose uppercase is not ASCII cannot make a text equal to an ASCII one. -/
def upperChar (c : Char) : List Char :=
  match c.toNat with
  | 0xdf => ['S', 'S']
  | 0x131 => ['I']
  | 0x17f => ['S']
  | 0xfb00 => ['F', 'F']
  | 0xfb01 => ['F', 'I']
  | 0xfb02 => ['F', 'L']
  | 0xfb03 => ['F', 'F', 'I']
  | 0xfb04 => ['F', 'F', 'L']
  | 0xfb05 => ['S', 'T']
  | 0xfb06 => ['S', 'T']
  | _ => [c.toUpper]

/-- `str.upper()`. -/
def upper (text : String) : String := String.ofList (text.toList.flatMap upperChar)

/-- `d.get(key, d.get(other))`. -/
def getEither (d : JsonObject) (key other : String) : Option Json :=
  match d.get key with
  | some value => some value
  | none => d.get other

/-- `str(value).strip().upper() if value is not None else ""`. -/
def stateText : Option Json → String
  | none | some .null => ""
  | some value => upper (strip value.pyStr)

/-- The outcomes of the Navigator invocation envelope. -/
inductive ConnectorOutcome where
  | verified | pending | uncertain | failed
deriving DecidableEq, Repr

def ConnectorOutcome.text : ConnectorOutcome → String
  | .verified => "verified"
  | .pending => "pending"
  | .uncertain => "uncertain"
  | .failed => "failed"

/-- The receipt state of an outcome. -/
def ConnectorOutcome.receiptState : ConnectorOutcome → InvocationState
  | .verified => .succeeded
  | .pending => .pending
  | .uncertain => .unknownResult
  | .failed => .failed

/-- `_connector_operation_ref`. -/
def connectorOperationRef (result : JsonObject) : Option String :=
  match getEither result "operation_ref" "operationRef" with
  | some (.str ref) => if ref = "" then none else some ref
  | _ => none

/-- `_connector_operation_state`. -/
def connectorOperationState (result : JsonObject) : Option String :=
  match getEither result "state" "status" with
  | some (.str text) => some (upper (strip text))
  | _ => none

/-- States of a mutation whose outcome nobody knows. -/
def unknownMutationState (state remoteState : String) : Bool :=
  ["UNKNOWN", "UNKNOWN_RESULT", "UNCERTAIN", "REMOTE_STATE_UNVERIFIED", "COMMAND_INTERRUPTED",
    "COMMAND_CANCELLED"].contains state ||
  ["UNKNOWN", "UNKNOWN_RESULT", "UNVERIFIED"].contains remoteState

def lowerHex (c : Char) : Bool := c.isDigit || (decide ('a' ≤ c) && decide (c ≤ 'f'))

/-- `work-operation:` and a lowercase UUID. -/
def workOperationRef (text : String) : Bool :=
  startsWith text "work-operation:" &&
    match (text.toList.drop 15).splitOn '-' with
    | [a, b, c, d, e] =>
        [a, b, c, d, e].map List.length == [8, 4, 4, 4, 12] && [a, b, c, d, e].all (·.all lowerHex)
    | _ => false

/-- Which branch of the Bilibili write rule a result takes. -/
def bilibiliOutcome (result : JsonObject) (state : String) (expectedOperationRef : Option String) :
    ConnectorOutcome :=
  let exactOperationRef := match expectedOperationRef with
    | some expected => workOperationRef expected && connectorOperationRef result == some expected
    | none => false
  let externalId := match getEither result "external_id" "externalId" with
    | some (.str id) => decide (1 ≤ id.length) && decide (id.length ≤ 20) &&
        id.toList.all Char.isDigit
    | _ => false
  let readbackVerified := match getEither result "readback_verified" "readbackVerified" with
    | some (.bool true) => true
    | _ => false
  let readbackDigest := match getEither result "readback_sha256" "readbackSha256" with
    | some (.str digest) => decide (digest.length = 64) && digest.toList.all lowerHex
    | _ => false
  if state = "SUCCEEDED" ∧ exactOperationRef = true ∧ externalId = true ∧
      readbackVerified = true ∧ readbackDigest = true then .verified
  else if ["REJECTED", "FAILED", "ERROR"].contains state then .failed
  else .uncertain

/-- The provider reported an error object or flag. -/
def providerError (result : JsonObject) : Bool :=
  (match getEither result "isError" "is_error" with
    | some (.bool true) => true
    | _ => false) ||
  match result.get "error" with
    | some (.obj _) => true
    | _ => false

/-- The decision of `_connector_operation_response`, before a pending result
without a reference is turned uncertain. -/
def rawOutcome (result : JsonObject) (isMutating : Bool) (operationId : String)
    (expectedOperationRef : Option String) : ConnectorOutcome :=
  let state := stateText (getEither result "state" "status")
  let remoteState := stateText (getEither result "remote_state" "remoteState")
  if isMutating = true ∧ ["bilibili.comment.create", "bilibili.dynamic.publish",
      "bilibili.dm.send"].contains operationId then
    bilibiliOutcome result state expectedOperationRef
  else if isMutating = true ∧ unknownMutationState state remoteState = true then .uncertain
  else if isMutating = true ∧ operationId = "microsoft_graph.mail.message.send" ∧
      state = "ACCEPTED" then .verified
  else if state = "COMMAND_FAILED" ∧ ["", "NOT_APPLICABLE"].contains remoteState then .failed
  else if isMutating = true ∧
      ["PENDING", "RUNNING", "SUBMITTED", "ACCEPTED"].contains state then .pending
  else if providerError result = true then .failed
  else if isMutating = true ∧ (["FAILED", "REJECTED", "ERROR"].contains state ∨ state = "") then
    if state = "" then .uncertain else .failed
  else .verified

/-- The outcome `_connector_operation_response` answers with. -/
def connectorOutcome (result : JsonObject) (isMutating : Bool) (operationId : String)
    (expectedOperationRef : Option String) : ConnectorOutcome :=
  let outcome := rawOutcome result isMutating operationId expectedOperationRef
  if outcome = .pending ∧ connectorOperationRef result = none then .uncertain else outcome

/-- `_connector_operation_response`. -/
def connectorOperationResponse (canonical : Json → Option String) (requestId : String)
    (result : JsonObject) (isMutating : Bool) (operationId : String)
    (expectedOperationRef : Option String) : Except LedgerError (ConnectorOutcome × JsonObject) :=
  let outcome := connectorOutcome result isMutating operationId expectedOperationRef
  match canonical (.obj result) with
  | none => .error .canonicalization
  | some text =>
      let response : JsonObject := [
        ("requestId", .str requestId),
        ("outcome", .str outcome.text),
        ("result", .obj [
          ("content", .arr [.obj [("type", .str "text"), ("text", .str text)]]),
          ("isError", .bool (outcome == .failed || outcome == .uncertain))])]
      match connectorOperationRef result with
      | none => .ok (outcome, response)
      | some ref => .ok (outcome, response ++ [("operationRef", .str ref)])

/-- What became of the call that was handed to the provider client. -/
inductive DispatchOutcome where
  | answered (result : JsonObject)
  | refused (error : ExchangeProductError)
  | raised
deriving Repr

/-- `_connector_exception_result`: 4xx refusals are definite, 5xx writes are
not. -/
def connectorExceptionResult (error : ExchangeProductError) (isMutating : Bool) : JsonObject := [
  ("state", .str (if isMutating = true ∧ 500 ≤ error.status then "UNKNOWN_RESULT" else "FAILED")),
  ("error", .obj [("code", .str error.code), ("retryable", .bool error.retryable)])]

/-- The result dictionary of `execute_connector_operation`. -/
def DispatchOutcome.result (outcome : DispatchOutcome) (isMutating : Bool) : JsonObject :=
  match outcome with
  | .answered result => result
  | .refused error => connectorExceptionResult error isMutating
  | .raised => [
      ("state", .str (if isMutating then "UNKNOWN_RESULT" else "FAILED")),
      ("error", .obj [("code", .str "PROVIDER_UNAVAILABLE"), ("retryable", .bool true)])]

end CyreneExchange.Integrations
