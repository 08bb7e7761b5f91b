import CyreneExchange.General.Table
import CyreneExchange.General.Transaction
import CyreneExchange.Integrations.Values

/-! The connector tables of the integration store: consumed Navigator request
ids, registered Authority grants and the invocation ledger. -/
namespace CyreneExchange.Integrations

open Transaction

/-- What a connector route answers instead of a result. -/
structure ExchangeProductError where
  code : String
  title : String
  detail : String
  status : Nat
  retryable : Bool := false
  reasonCode : Option String := none
deriving DecidableEq, Repr

/-- `_forbidden`. -/
def forbidden (reasonCode : String) : ExchangeProductError where
  code := "EXCHANGE_CONNECTOR_AUTHORIZATION_DENIED"
  title := "Connector authorization denied"
  detail := "The connector authorization proof is invalid or out of scope."
  status := 403
  reasonCode := some reasonCode

/-- `_conflict`. -/
def replayed (reasonCode : String) : ExchangeProductError where
  code := "EXCHANGE_CONNECTOR_REQUEST_REPLAYED"
  title := "Connector request was already used"
  detail := "The connector request id or one-use grant has already been consumed."
  status := 409
  reasonCode := some reasonCode

/-- `_not_configured`. -/
def notConfigured (reasonCode : String) : ExchangeProductError where
  code := "EXCHANGE_CONNECTOR_NOT_CONFIGURED"
  title := "Connector authorization is not configured"
  detail := "Exchange cannot validate or dispatch this connector operation."
  status := 503
  retryable := true
  reasonCode := some reasonCode

/-- A consumed Navigator request id. -/
structure RequestReplay where
  keyId : String
  requestId : String
  expiresAt : Int
deriving DecidableEq, Repr

/-- A registered one-use grant. -/
structure GrantReplay where
  grantRef : String
  encodedSha256 : String
  expiresAt : Int
  consumedAt : Option Int
deriving DecidableEq, Repr

/-- The states of a ledger row. -/
inductive InvocationState where
  | inProgress | pending | unknownResult | succeeded | failed | rejected | rateLimited
deriving DecidableEq, Repr

/-- `state IN ('SUCCEEDED','FAILED','REJECTED','RATE_LIMITED')`. -/
def InvocationState.terminal : InvocationState → Bool
  | .succeeded | .failed | .rejected | .rateLimited => true
  | .inProgress | .pending | .unknownResult => false

/-- `state IN ('PENDING','UNKNOWN_RESULT')`. -/
def InvocationState.unresolved : InvocationState → Bool
  | .pending | .unknownResult => true
  | _ => false

/-- The operation a reservation is signed for. -/
structure SignedScope where
  connectionRef : String
  providerId : String
  profileRef : String
  operationId : String
  resourceRef : String
  argumentsSha256 : String
  envelopeSha256 : String
  isMutating : Bool
deriving DecidableEq, Repr

/-- The primary key of the ledger: verified actor and request id. -/
structure InvocationKey where
  scope : ActorScope
  requestId : String
deriving DecidableEq, Repr

structure ConnectorInvocation where
  key : InvocationKey
  signed : SignedScope
  state : InvocationState
  operationRef : Option String := none
  grantRef : String
  createdAt : Int
  expiresAt : Int := 0
  responseJson : Option String := none
  responseStatus : Nat := 200
deriving DecidableEq, Repr

structure ConnectorStore where
  requestReplays : List RequestReplay := []
  grantReplays : List GrantReplay := []
  invocations : List ConnectorInvocation := []
deriving DecidableEq, Repr

/-- What a ledger method raises. -/
inductive LedgerError where
  | validation (detail : String)
  | conflict (detail : String)
  | full (detail : String)
  | canonicalization
deriving DecidableEq, Repr

abbrev ConnectorTransaction := Transaction ConnectorStore LedgerError

/-- `consume_connector_request_id`: one row per request id until its replay
window ends. A refused insertion keeps the pruning. -/
def consumeConnectorRequestId (keyId requestId : String) (expiresAt nowEpoch : Int)
    (s : ConnectorStore) : Bool × ConnectorStore :=
  if keyId = "" ∨ requestId = "" ∨ 128 < keyId.length ∨ 200 < requestId.length ∨
      expiresAt ≤ nowEpoch then (false, s)
  else
    let rows := Table.deleteWhere (fun row => decide (row.expiresAt ≤ nowEpoch)) s.requestReplays
    if rows.any fun row => row.keyId == keyId && row.requestId == requestId then
      (false, { s with requestReplays := rows })
    else (true, { s with requestReplays := rows ++ [⟨keyId, requestId, expiresAt⟩] })

/-- `register_connector_grant`. -/
def registerConnectorGrant (grantRef encodedSha256 : String) (expiresAt nowEpoch : Int)
    (s : ConnectorStore) : Bool × ConnectorStore :=
  if startsWith grantRef "sha256:" = false ∨ 80 < grantRef.length ∨
      encodedSha256.length ≠ 64 ∨ expiresAt ≤ nowEpoch ∨ 20 < expiresAt - nowEpoch then (false, s)
  else
    let rows := Table.deleteWhere (fun row => decide (row.expiresAt ≤ nowEpoch)) s.grantReplays
    if 8192 ≤ rows.length ∨ (rows.any fun row => row.grantRef == grantRef) then
      (false, { s with grantReplays := rows })
    else
      (true, { s with grantReplays := rows ++ [⟨grantRef, encodedSha256, expiresAt, none⟩] })

/-- The rows the UPDATE of `consume_connector_grant` selects. -/
def GrantReplay.consumable (grantRef encodedSha256 : String) (nowEpoch : Int)
    (row : GrantReplay) : Bool :=
  row.grantRef == grantRef && row.encodedSha256 == encodedSha256 &&
    decide (nowEpoch < row.expiresAt) && row.consumedAt.isNone

/-- `consume_connector_grant`. -/
def consumeConnectorGrant (grantRef encodedSha256 : String) (nowEpoch : Int)
    (s : ConnectorStore) : Bool × ConnectorStore :=
  if grantRef = "" ∨ encodedSha256.length ≠ 64 then (false, s)
  else
    let rows := Table.deleteWhere (fun row => decide (row.expiresAt ≤ nowEpoch)) s.grantReplays
    let consumable := GrantReplay.consumable grantRef encodedSha256 nowEpoch
    (rows.countP consumable == 1, { s with
      grantReplays := Table.updateWhere consumable
        (fun row => { row with consumedAt := some nowEpoch }) rows })

end CyreneExchange.Integrations
