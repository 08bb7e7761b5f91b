import CyreneExchange.Integrations.Connector.Outcome

/-! The connector invocation ledger: one row per actor scope and request id,
reserved before a provider is called. Rows leave it by discard, by the TTL of
terminal rows and by the metadata budget. -/
namespace CyreneExchange.Integrations

open Transaction

/-- `_CONNECTOR_RECEIPT_TTL_SECONDS`. -/
def connectorReceiptTtlSeconds : Int := 24 * 60 * 60

def connectorReceiptMaxEntries : Nat := 256
def connectorReceiptMaxBytes : Nat := 4 * 1024 * 1024
def connectorReceiptMaxEntryBytes : Nat := 16 * 1024
def connectorTombstoneMaxEntries : Nat := 4096
def connectorTombstoneMaxBytes : Nat := 2 * 1024 * 1024
def connectorLedgerMaxEntries : Nat := 8192
def connectorLedgerMaxBytes : Nat := 4 * 1024 * 1024

def InvocationState.text : InvocationState → String
  | .inProgress => "IN_PROGRESS"
  | .pending => "PENDING"
  | .unknownResult => "UNKNOWN_RESULT"
  | .succeeded => "SUCCEEDED"
  | .failed => "FAILED"
  | .rejected => "REJECTED"
  | .rateLimited => "RATE_LIMITED"

inductive Disposition where
  | new | inProgress | replay | unknown
deriving DecidableEq, Repr

/-- `ConnectorInvocationReservation`; the receipt stays in its stored text. -/
structure Reservation where
  disposition : Disposition
  state : InvocationState
  response : Option String := none
  httpStatus : Nat := 200
  operationRef : Option String := none
  grantRef : Option String := none
  isMutating : Bool := false
deriving DecidableEq, Repr

/-- `expires_at > 0 AND expires_at <= ?` of a terminal row. -/
def ConnectorInvocation.expired (nowEpoch : Int) (row : ConnectorInvocation) : Bool :=
  row.state.terminal && decide (0 < row.expiresAt) && decide (row.expiresAt ≤ nowEpoch)

/-- Delete the expired terminal rows. -/
def pruneInvocations (nowEpoch : Int) (rows : List ConnectorInvocation) :
    List ConnectorInvocation :=
  Table.deleteWhere (ConnectorInvocation.expired nowEpoch) rows

/-- UTF-8 bytes of the identity of a row. -/
def InvocationKey.bytes (key : InvocationKey) : Nat :=
  key.scope.organizationId.utf8ByteSize + key.scope.workspaceId.utf8ByteSize +
    key.scope.actorIssuer.utf8ByteSize + key.scope.actorSubject.utf8ByteSize +
    key.requestId.utf8ByteSize

/-- UTF-8 bytes of the signed columns and the grant reference. -/
def SignedScope.bytes (signed : SignedScope) (grantRef : String) : Nat :=
  signed.connectionRef.utf8ByteSize + signed.providerId.utf8ByteSize +
    signed.profileRef.utf8ByteSize + signed.operationId.utf8ByteSize +
    signed.resourceRef.utf8ByteSize + signed.argumentsSha256.utf8ByteSize +
    signed.envelopeSha256.utf8ByteSize + grantRef.utf8ByteSize

/-- A stored row; its flag is the text of 0 or 1. -/
def ConnectorInvocation.bytes (row : ConnectorInvocation) : Nat :=
  row.key.bytes + row.signed.bytes row.grantRef + 1

/-- A row to be stored; its flag is still the text of True or False. -/
def incomingBytes (key : InvocationKey) (signed : SignedScope) (grantRef : String) : Nat :=
  key.bytes + signed.bytes grantRef + if signed.isMutating then 4 else 5

def invocationScopeValid (key : InvocationKey) (signed : SignedScope) (grantRef : String) : Bool :=
  decide (key.requestId ≠ "") && decide (key.requestId.length ≤ 200) &&
    decide (signed.connectionRef.length ≤ 300) && decide (signed.providerId.length ≤ 100) &&
    decide (signed.profileRef.length ≤ 300) && decide (signed.operationId.length ≤ 200) &&
    decide (signed.resourceRef.length ≤ 1000) && decide (signed.argumentsSha256.length = 64) &&
    decide (signed.envelopeSha256.length = 64) && startsWith grantRef "sha256:" &&
    decide (grantRef.length ≤ 80)

/-- The answer to a request whose key already has a row. -/
def ConnectorInvocation.reservation (row : ConnectorInvocation) : Reservation where
  disposition :=
    if row.state = .inProgress then .inProgress
    else if row.state.unresolved = true ∧ row.responseJson = none then .unknown
    else .replay
  state := row.state
  response := row.responseJson
  httpStatus := row.responseStatus
  operationRef := row.operationRef
  grantRef := if row.grantRef = "" then none else some row.grantRef
  isMutating := row.signed.isMutating

/-- The metadata budget is exceeded by another row of `incoming` bytes. -/
def overLedgerBudget (incoming : Nat) (rows : List ConnectorInvocation) : Bool :=
  decide (connectorLedgerMaxEntries ≤ rows.length) ||
    decide (connectorLedgerMaxBytes < (rows.map ConnectorInvocation.bytes).sum + incoming)

/-- Delete the oldest terminal rows until the budget is met. -/
def evictInvocations (incoming : Nat) :
    List ConnectorInvocation → List ConnectorInvocation → Option (List ConnectorInvocation)
  | oldest :: later, rows =>
      if overLedgerBudget incoming rows then
        evictInvocations incoming later (Table.deleteWhere (fun row => row.key == oldest.key) rows)
      else some rows
  | [], rows => if overLedgerBudget incoming rows then none else some rows

/-- `ORDER BY created_at ASC`. -/
def byCreation (rows : List ConnectorInvocation) : List ConnectorInvocation :=
  rows.insertionSort fun a b => a.createdAt ≤ b.createdAt

def tombstones (rows : List ConnectorInvocation) : List ConnectorInvocation :=
  rows.filter fun row => !row.state.terminal

/-- Write the ledger. -/
def setInvocations (rows : List ConnectorInvocation) : ConnectorTransaction Unit :=
  store fun s => { s with invocations := rows }

/-- `reserve_connector_invocation`. -/
def reserveConnectorInvocation (key : InvocationKey) (signed : SignedScope) (grantRef : String)
    (nowEpoch : Int) : ConnectorTransaction Reservation := do
  require (invocationScopeValid key signed grantRef)
    (.validation "connector invocation scope is invalid")
  require (decide (key.bytes ≤ 4096)) (.validation "connector invocation identity is too large")
  let rows ← fetch fun s => pruneInvocations nowEpoch s.invocations
  setInvocations rows
  match rows.find? fun row => row.key == key with
  | some row =>
      require (row.signed == signed)
        (.conflict "connector request id was already used for a different signed operation")
      pure row.reservation
  | none =>
      let incoming := incomingBytes key signed grantRef
      let unresolved := tombstones rows
      require (decide (unresolved.length < connectorTombstoneMaxEntries) &&
          decide ((unresolved.map ConnectorInvocation.bytes).sum + incoming ≤
            connectorTombstoneMaxBytes))
        (.full "connector invocation tombstone budget is full")
      match evictInvocations incoming ((byCreation rows).filter fun row => row.state.terminal)
          rows with
      | none => reject (.full "connector invocation ledger metadata budget is full")
      | some remaining => do
          setInvocations (remaining ++ [{
            key := key
            signed := signed
            state := .inProgress
            grantRef := grantRef
            createdAt := nowEpoch }])
          pure { disposition := .new, state := .inProgress }

/-- `WHERE` key and envelope. -/
def ConnectorInvocation.isReservation (key : InvocationKey) (envelopeSha256 : String)
    (row : ConnectorInvocation) : Bool :=
  row.key == key && row.signed.envelopeSha256 == envelopeSha256

/-- `attach_connector_invocation_grant`. -/
def attachConnectorInvocationGrant (key : InvocationKey) (envelopeSha256 grantRef : String) :
    ConnectorTransaction Unit := do
  let rows ← fetch ConnectorStore.invocations
  require (rows.countP (ConnectorInvocation.isReservation key envelopeSha256) == 1)
    (.conflict "connector invocation reservation is missing")
  setInvocations (Table.updateWhere (ConnectorInvocation.isReservation key envelopeSha256)
    (fun row => { row with grantRef := grantRef }) rows)

/-- `_compact_connector_receipt`. -/
def compactConnectorReceipt (canonical : Json → Option String) (response : JsonObject)
    (responseDigest : String) (operationRef : Option String) (state : InvocationState)
    (freshRequestRequired : Bool) : Except LedgerError String :=
  let requestId := (response.get "requestId").getD .null
  if response.has "outcome" then
    let outcome := if state = .pending then "pending" else if state = .unknownResult then
      "uncertain" else if state = .failed then "failed" else "verified"
    let summary : JsonObject := [
      ("state", .str state.text),
      ("receiptOnly", .bool true),
      ("resultDigestSha256", .str responseDigest),
      ("freshRequestRequired", .bool freshRequestRequired),
      ("replayPolicy", .str (if freshRequestRequired then "fresh-read"
        else if state.unresolved then "status-reconciliation" else "do-not-repeat")),
      ("reasonCode", .str (if freshRequestRequired then "result_not_cached"
        else if state = .unknownResult then "operation_outcome_unknown"
        else if state = .pending then "operation_pending" else "operation_already_resolved"))]
    match canonical (.obj summary) with
    | none => .error .canonicalization
    | some text =>
        let compact : JsonObject := [
          ("requestId", requestId),
          ("outcome", .str outcome),
          ("result", .obj [
            ("content", .arr [.obj [("type", .str "text"), ("text", .str text)]]),
            ("isError", .bool (outcome == "failed" || outcome == "uncertain"))])]
        .ok (Json.dumps (.obj (if truthy operationRef then
          compact ++ [("operationRef", optionalText operationRef)] else compact)))
  else if response.has "status" then
    .ok (Json.dumps (.obj (response.filter fun entry => ["requestId", "status",
      "vendorMessageId", "reasonCode", "retryAfterSeconds"].contains entry.1)))
  else
    .ok (Json.dumps (.obj [
      ("requestId", requestId),
      ("state", .str state.text),
      ("operationRef", optionalText operationRef),
      ("receiptOnly", .bool true),
      ("resultDigestSha256", .str responseDigest)]))

/-- The rows that cache a receipt, and the bytes they cache. -/
def cachedReceipts (rows : List ConnectorInvocation) : List String :=
  rows.filterMap ConnectorInvocation.responseJson

def cachedBytes (rows : List ConnectorInvocation) : Nat :=
  ((cachedReceipts rows).map String.utf8ByteSize).sum

def withinReceiptBudget (incoming : Nat) (rows : List ConnectorInvocation) : Bool :=
  decide ((cachedReceipts rows).length < connectorReceiptMaxEntries) &&
    decide (cachedBytes rows + incoming ≤ connectorReceiptMaxBytes)

/-- Forget the oldest receipts until the budget is met. -/
def forgetReceipts (incoming : Nat) :
    List ConnectorInvocation → List ConnectorInvocation → List ConnectorInvocation
  | oldest :: later, rows =>
      if withinReceiptBudget incoming rows then rows
      else forgetReceipts incoming later (Table.updateWhere (fun row => row.key == oldest.key)
        (fun row => { row with responseJson := none }) rows)
  | [], rows => rows

/-- `_trim_connector_receipts`. -/
def trimConnectorReceipts (nowEpoch : Int) (incoming : Nat) (excluded : InvocationKey)
    (rows : List ConnectorInvocation) : List ConnectorInvocation :=
  let live := pruneInvocations nowEpoch rows
  forgetReceipts incoming ((byCreation live).filter fun row =>
    row.responseJson.isSome && row.key != excluded) live

/-- Trim the receipts, then keep the new one only if it fits. -/
def admitReceipt (nowEpoch : Int) (key : InvocationKey) (receipt : String)
    (rows : List ConnectorInvocation) : Option String × List ConnectorInvocation :=
  let trimmed := trimConnectorReceipts nowEpoch receipt.utf8ByteSize key rows
  (if withinReceiptBudget receipt.utf8ByteSize trimmed then some receipt else none, trimmed)

/-- `complete_connector_invocation`. -/
def completeConnectorInvocation (canonical : Json → Option String) (sha256 : String → String)
    (key : InvocationKey) (envelopeSha256 : String) (state : InvocationState)
    (response : Option JsonObject) (operationRef : Option String) (responseStatus : Nat)
    (nowEpoch : Int) : ConnectorTransaction Unit := do
  require (decide (200 ≤ responseStatus) && decide (responseStatus ≤ 599))
    (.validation "connector response status is invalid")
  let rows ← fetch ConnectorStore.invocations
  match rows.find? (ConnectorInvocation.isReservation key envelopeSha256) with
  | none => reject (.conflict "connector invocation reservation is missing")
  | some reservation =>
      let receipt ← (fun s => match response with
        | none => .ok (none, s)
        | some response => match canonical (.obj response) with
          | none => .error .canonicalization
          | some encoded =>
              match compactConnectorReceipt canonical response (sha256 encoded) operationRef state
                  (!reservation.signed.isMutating && (state == .succeeded || state == .failed)) with
              | .error e => .error e
              | .ok text => .ok (if text.utf8ByteSize ≤ connectorReceiptMaxEntryBytes then some text
                  else none, s) : ConnectorTransaction (Option String))
      let (stored, trimmed) := match receipt with
        | none => (none, rows)
        | some text => admitReceipt nowEpoch key text rows
      setInvocations (Table.updateWhere (ConnectorInvocation.isReservation key envelopeSha256)
        (fun row => { row with
          state := state
          operationRef := operationRef
          expiresAt := if state.unresolved then 0 else nowEpoch + connectorReceiptTtlSeconds
          responseJson := stored
          responseStatus := responseStatus }) trimmed)

/-- `discard_connector_invocation`. -/
def discardConnectorInvocation (key : InvocationKey) (envelopeSha256 : String) :
    ConnectorTransaction Unit := do
  let rows ← fetch ConnectorStore.invocations
  setInvocations (Table.deleteWhere (fun row => row.isReservation key envelopeSha256 &&
    row.state == .inProgress && row.operationRef.isNone) rows)

/-- The unresolved rows an authoritative status read settles. -/
def ConnectorInvocation.awaits (scope : ActorScope) (profileRef operationRef : String)
    (row : ConnectorInvocation) : Bool :=
  row.key.scope == scope && row.signed.profileRef == profileRef &&
    row.operationRef == some operationRef && row.state.unresolved

/-- The receipt of a reconciled row. -/
def reconciledReceipt (canonical : Json → Option String) (requestId operationRef : String)
    (terminalState : InvocationState) : Except LedgerError String :=
  match canonical (.obj [
    ("state", .str terminalState.text),
    ("operation_ref", .str operationRef),
    ("reconciled", .bool true),
    ("receiptOnly", .bool true),
    ("replayPolicy", .str "do-not-repeat")]) with
  | none => .error .canonicalization
  | some text => .ok (Json.dumps (.obj [
      ("requestId", .str requestId),
      ("outcome", .str "verified"),
      ("operationRef", .str operationRef),
      ("result", .obj [
        ("content", .arr [.obj [("type", .str "text"), ("text", .str text)]]),
        ("isError", .bool false)])]))

/-- One row after another is settled, each in the ledger the last one left. -/
def settleInvocations (canonical : Json → Option String) (operationRef : String)
    (terminalState : InvocationState) (nowEpoch : Int) :
    List ConnectorInvocation → ConnectorTransaction Unit
  | [] => pure ()
  | row :: later => do
      let rows ← fetch ConnectorStore.invocations
      match reconciledReceipt canonical row.key.requestId operationRef terminalState with
      | .error e => reject e
      | .ok receipt => do
          let (stored, trimmed) := admitReceipt nowEpoch row.key receipt rows
          setInvocations (Table.updateWhere
            (ConnectorInvocation.isReservation row.key row.signed.envelopeSha256)
            (fun row => { row with
              state := terminalState
              expiresAt := nowEpoch + connectorReceiptTtlSeconds
              responseJson := stored
              responseStatus := 200 }) trimmed)
          settleInvocations canonical operationRef terminalState nowEpoch later

/-- `reconcile_connector_invocations`. -/
def reconcileConnectorInvocations (canonical : Json → Option String) (scope : ActorScope)
    (profileRef operationRef : String) (terminalState : InvocationState) (nowEpoch : Int) :
    ConnectorTransaction Unit := do
  if profileRef = "" ∨ operationRef = "" then pure ()
  else
    let rows ← fetch fun s =>
      s.invocations.filter (ConnectorInvocation.awaits scope profileRef operationRef)
    settleInvocations canonical operationRef terminalState nowEpoch rows

end CyreneExchange.Integrations
