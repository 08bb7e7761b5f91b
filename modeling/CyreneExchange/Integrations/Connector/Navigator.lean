import CyreneExchange.Integrations.Connector.Verifier

/-! Signed Navigator requests. The skew check reads a fractional clock, the
replay row lives by a second reading cut to whole seconds; no request id
passes twice for one signed timestamp at either end of the window. -/
namespace CyreneExchange.Integrations

open Machine GrantVerifier

/-- `_MAX_CONTEXT_SKEW_SECONDS`. -/
def maxContextSkewSeconds : Int := 30

/-- `_KEY_ID`: a letter or digit, then up to 127 letters, digits and `._:-`. -/
def keyIdMatches (text : String) : Bool :=
  match text.toList with
  | [] => false
  | first :: rest => first.isAlphanum && decide (rest.length ≤ 127) &&
      rest.all fun c => c.isAlphanum || c == '.' || c == '_' || c == ':' || c == '-'

/-- `text.isascii() and text.isdecimal()`. -/
def asciiDecimal (text : String) : Bool := text != "" && text.toList.all Char.isDigit

/-- `int(text)` of ASCII digits; more than 4300 of them raise ValueError. -/
def parseDecimal (text : String) : Option Int :=
  if 4300 < text.length then none
  else some (text.toList.foldl (fun n c => 10 * n + (c.toNat - '0'.toNat : Nat)) 0)

/-- `[0-9a-f]{64}`. -/
def hexSignature (text : String) : Bool :=
  decide (text.length = 64) &&
    text.toList.all fun c => c.isDigit || (decide ('a' ≤ c) && decide (c ≤ 'f'))

/-- One signed request as the route presents it; an absent header is empty. -/
structure NavigatorRequest where
  method : String
  path : String
  keyId : String
  timestamp : String
  signature : String
  rawBody : List UInt8
deriving DecidableEq, Repr

/-- `navigator_hmac_body_limit`. -/
def navigatorHmacBodyLimit (method path : String) : Nat :=
  if method.toUpper = "POST" ∧ path = "/internal/v1/connector-operation-grants" then 1500000
  else 128 * 1024

def requestTooLarge : ExchangeProductError where
  code := "EXCHANGE_CONNECTOR_REQUEST_TOO_LARGE"
  title := "Connector request is too large"
  detail := "The signed connector request exceeds the configured size limit."
  status := 413

/-- `NavigatorHmacAuthenticator`: the configured key id, the reading of the
mounted key file, HMAC-SHA256 in hexadecimal, and the rounding of float
arithmetic. -/
structure NavigatorAuthenticator where
  keyId : Option String
  key : Except ExchangeProductError (List UInt8)
  hmac : List UInt8 → List UInt8 → String
  round : ℚ → ℚ

namespace NavigatorAuthenticator

variable (authenticator : NavigatorAuthenticator)

/-- `METHOD + LF + PATH + LF + TIMESTAMP + LF + RAW_BODY`. -/
def message (request : NavigatorRequest) : List UInt8 :=
  (request.method.toUpper ++ "\n" ++ request.path ++ "\n" ++ request.timestamp ++
    "\n").toUTF8.toList ++ request.rawBody

/-- Everything `verify` checks before the request id, at `clock`. -/
def authenticate (request : NavigatorRequest) (clock : ℚ) : Except ExchangeProductError Int := do
  let keyId ← present authenticator.keyId (notConfigured "navigator_hmac_not_configured")
  check (request.keyId == keyId && keyIdMatches request.keyId)
    (forbidden "navigator_key_id_invalid")
  check (asciiDecimal request.timestamp) (forbidden "navigator_timestamp_invalid")
  let timestamp ← present (parseDecimal request.timestamp)
    (forbidden "navigator_timestamp_invalid")
  check (decide ((timestamp : ℚ) ≤ authenticator.round (clock + 5)) &&
    decide (authenticator.round (clock - authenticator.round timestamp) ≤ maxContextSkewSeconds))
    (forbidden "navigator_request_expired")
  check (decide (request.rawBody.length ≤ navigatorHmacBodyLimit request.method request.path))
    requestTooLarge
  check (hexSignature request.signature) (forbidden "navigator_signature_invalid")
  let key ← authenticator.key
  check (request.signature == authenticator.hmac key (message request))
    (forbidden "navigator_signature_invalid")
  .ok timestamp

/-- `consume_request_id`, at its own clock reading. -/
def consumeRequestId (keyId requestId : String) (timestamp : Int) (clock : ℚ)
    (s : ConnectorStore) : Except ExchangeProductError Unit × ConnectorStore :=
  match authenticator.keyId with
  | none => (.error (notConfigured "navigator_hmac_not_configured"), s)
  | some configured =>
      if keyId ≠ configured ∨ requestId = "" ∨ 200 < requestId.length then
        (.error (forbidden "navigator_request_id_invalid"), s)
      else match consumeConnectorRequestId keyId requestId (timestamp + maxContextSkewSeconds)
          (truncate clock) s with
        | (true, t) => (.ok (), t)
        | (false, t) => (.error (replayed "navigator_request_replayed"), t)

/-- `verify`: the skew check reads the clock once, the request id again. -/
def verify (request : NavigatorRequest) (requestId : Option String) (clock clock' : ℚ)
    (s : ConnectorStore) : Except ExchangeProductError Int × ConnectorStore :=
  match authenticator.authenticate request clock, requestId with
  | .error e, _ => (.error e, s)
  | .ok timestamp, none => (.ok timestamp, s)
  | .ok timestamp, some requestId =>
      match authenticator.consumeRequestId request.keyId requestId timestamp clock' s with
      | (.ok _, t) => (.ok timestamp, t)
      | (.error e, t) => (.error e, t)

end NavigatorAuthenticator

/-- One presented request with the readings of its clock, or the consumption
of a request id that a route verified without it. -/
inductive NavigatorCall where
  | verify (authenticator : NavigatorAuthenticator) (request : NavigatorRequest)
      (requestId : Option String) (clock clock' : ℚ)
  | consumeRequestId (authenticator : NavigatorAuthenticator) (keyId requestId : String)
      (timestamp : Int) (clock : ℚ)

/-- The clock readings of a call, in order. -/
def NavigatorCall.readings : NavigatorCall → List ℚ
  | .verify _ _ _ clock clock' => [clock, clock']
  | .consumeRequestId _ _ _ _ clock => [clock]

/-- The second a replay row of the call is pruned and inserted by. -/
def NavigatorCall.second : NavigatorCall → Int
  | .verify _ _ _ _ clock' => truncate clock'
  | .consumeRequestId _ _ _ _ clock => truncate clock

/-- What a call answers: the accepted timestamp. -/
def performNavigator : NavigatorCall → ConnectorStore →
    Except ExchangeProductError Int × ConnectorStore
  | .verify authenticator request requestId clock clock', s =>
      authenticator.verify request requestId clock clock' s
  | .consumeRequestId authenticator keyId requestId timestamp clock, s =>
      match authenticator.consumeRequestId keyId requestId timestamp clock s with
      | (.ok _, t) => (.ok timestamp, t)
      | (.error e, t) => (.error e, t)

/-- The request id a call presents for its key. -/
def NavigatorCall.presents : NavigatorCall → Option (String × String)
  | .verify _ request requestId _ _ => requestId.map fun id => (request.keyId, id)
  | .consumeRequestId _ keyId requestId _ _ => some (keyId, requestId)

abbrev NavigatorEvent := Event ConnectorStore NavigatorCall (Except ExchangeProductError Int)

/-- The triple passed, with its request id consumed. -/
def NavigatorEvent.passes (keyId requestId : String) (timestamp : Int) (e : NavigatorEvent) :
    Bool :=
  e.input.presents == some (keyId, requestId) && match e.output with
    | .ok accepted => accepted == timestamp
    | .error _ => false

/-- The replay row of a triple stands. -/
def ConnectorStore.Recorded (keyId requestId : String) (expiresAt : Int) (s : ConnectorStore) :
    Prop :=
  (⟨keyId, requestId, expiresAt⟩ : RequestReplay) ∈ s.requestReplays

section Calls

variable {s : ConnectorStore} {call : NavigatorCall} {keyId requestId : String}
  {timestamp expiresAt nowEpoch : Int}

/-- Consuming a request id keeps every row that is not yet over, and answers
true only before the expiry, for a request id without a row. -/
theorem consumeConnectorRequestId_rows {row : RequestReplay} (hRow : row ∈ s.requestReplays)
    (hBefore : nowEpoch < row.expiresAt) :
    row ∈ (consumeConnectorRequestId keyId requestId expiresAt nowEpoch s).2.requestReplays := by
  have hLive : row ∈ Table.deleteWhere (fun row => decide (row.expiresAt ≤ nowEpoch))
      s.requestReplays := Table.mem_deleteWhere.mpr ⟨hRow, by simpa using hBefore⟩
  unfold consumeConnectorRequestId
  split
  · exact hRow
  · simp only []
    split
    · exact hLive
    · exact List.mem_append_left _ hLive

theorem consumeConnectorRequestId_accepted
    (h : (consumeConnectorRequestId keyId requestId expiresAt nowEpoch s).1 = true) :
    nowEpoch < expiresAt ∧
      (consumeConnectorRequestId keyId requestId expiresAt nowEpoch s).2.Recorded keyId requestId
        expiresAt ∧
      ∀ row ∈ s.requestReplays, nowEpoch < row.expiresAt →
        ¬ (row.keyId = keyId ∧ row.requestId = requestId) := by
  unfold consumeConnectorRequestId at h ⊢
  split at h
  · cases h
  · rename_i hValid
    simp only [] at h
    split at h
    · cases h
    · rename_i hAbsent
      rw [if_neg hValid]
      simp only [hAbsent]
      refine ⟨by omega, List.mem_append_right _ (List.mem_singleton_self _), ?_⟩
      rintro row hRow hBefore ⟨hKey, hRequest⟩
      apply hAbsent
      refine List.any_eq_true.mpr ⟨row, Table.mem_deleteWhere.mpr ⟨hRow, ?_⟩, ?_⟩
      · simpa using hBefore
      · simp [hKey, hRequest]

/-- Consuming a request id refuses outright, or is one attempt on the table. -/
theorem NavigatorAuthenticator.consumeRequestId_cases (authenticator : NavigatorAuthenticator)
    (keyId requestId : String) (timestamp : Int) (clock : ℚ) (s : ConnectorStore) :
    (∃ e, authenticator.consumeRequestId keyId requestId timestamp clock s = (.error e, s)) ∨
      ∃ answer, authenticator.consumeRequestId keyId requestId timestamp clock s = (answer,
          (consumeConnectorRequestId keyId requestId (timestamp + maxContextSkewSeconds)
            (truncate clock) s).2) ∧
        (answer = .ok () → (consumeConnectorRequestId keyId requestId
          (timestamp + maxContextSkewSeconds) (truncate clock) s).1 = true) := by
  unfold NavigatorAuthenticator.consumeRequestId
  cases authenticator.keyId with
  | none => exact Or.inl ⟨_, rfl⟩
  | some configured =>
      simp only []
      split
      · exact Or.inl ⟨_, rfl⟩
      · refine Or.inr ?_
        cases hConsume : consumeConnectorRequestId keyId requestId
            (timestamp + maxContextSkewSeconds) (truncate clock) s with
        | mk accepted t =>
            cases accepted with
            | true => exact ⟨.ok (), rfl, fun _ => rfl⟩
            | false =>
                refine ⟨.error (replayed "navigator_request_replayed"), rfl, fun h => ?_⟩
                cases h

/-- A call leaves the replay rows alone and lets nothing pass, or is one
attempt on the table under its second reading. -/
theorem performNavigator_cases (call : NavigatorCall) (s : ConnectorStore) :
    ((performNavigator call s).2 = s ∧ ∀ accepted, call.presents.isSome →
        (performNavigator call s).1 ≠ .ok accepted) ∨
      ∃ keyId requestId timestamp, call.presents = some (keyId, requestId) ∧
        (performNavigator call s).2 = (consumeConnectorRequestId keyId requestId
          (timestamp + maxContextSkewSeconds) call.second s).2 ∧
        ∀ accepted, (performNavigator call s).1 = .ok accepted →
          accepted = timestamp ∧ (consumeConnectorRequestId keyId requestId
            (timestamp + maxContextSkewSeconds) call.second s).1 = true := by
  cases call with
  | verify authenticator request requestId clock clock' =>
      simp only [performNavigator, NavigatorAuthenticator.verify]
      cases hAuthentic : authenticator.authenticate request clock with
      | error e => exact Or.inl ⟨rfl, fun _ _ h => by cases h⟩
      | ok timestamp =>
          cases requestId with
          | none => exact Or.inl ⟨rfl, fun _ h => by cases h⟩
          | some requestId =>
              rcases authenticator.consumeRequestId_cases request.keyId requestId timestamp clock'
                s with ⟨e, hCase⟩ | ⟨answer, hCase, hAccepted⟩
              · simp only [hCase]
                exact Or.inl ⟨trivial, fun _ _ h => by cases h⟩
              · simp only [hCase]
                refine Or.inr ⟨request.keyId, requestId, timestamp, rfl, ?_, ?_⟩
                · cases answer <;> rfl
                · cases answer with
                  | error e => exact fun _ h => by cases h
                  | ok u => exact fun accepted h => ⟨by cases h; rfl, hAccepted rfl⟩
  | consumeRequestId authenticator keyId requestId timestamp clock =>
      simp only [performNavigator]
      rcases authenticator.consumeRequestId_cases keyId requestId timestamp clock s with
        ⟨e, hCase⟩ | ⟨answer, hCase, hAccepted⟩
      · simp only [hCase]
        exact Or.inl ⟨trivial, fun _ _ h => by cases h⟩
      · simp only [hCase]
        refine Or.inr ⟨keyId, requestId, timestamp, rfl, ?_, ?_⟩
        · cases answer <;> rfl
        · cases answer with
          | error e => exact fun _ h => by cases h
          | ok u => exact fun accepted h => ⟨by cases h; rfl, hAccepted rfl⟩

/-- A replay row stays until its window is over. -/
theorem performNavigator_recorded (h : s.Recorded keyId requestId expiresAt)
    (hBefore : call.second < expiresAt) :
    (performNavigator call s).2.Recorded keyId requestId expiresAt := by
  rcases performNavigator_cases call s with ⟨hSame, _⟩ | ⟨_, _, _, _, hStore, _⟩
  · rwa [hSame]
  · unfold ConnectorStore.Recorded
    rw [hStore]
    exact consumeConnectorRequestId_rows h hBefore

/-- A triple passes only before its window is over, with no standing row, and
leaves its row behind. -/
theorem performNavigator_passes (h : NavigatorEvent.passes keyId requestId timestamp
    ⟨s, call, (performNavigator call s).1, (performNavigator call s).2⟩ = true) :
    call.second < timestamp + maxContextSkewSeconds ∧
      ¬ s.Recorded keyId requestId (timestamp + maxContextSkewSeconds) ∧
      (performNavigator call s).2.Recorded keyId requestId
        (timestamp + maxContextSkewSeconds) := by
  simp only [NavigatorEvent.passes, Bool.and_eq_true, beq_iff_eq] at h
  obtain ⟨hPresents, hOutput⟩ := h
  cases hAnswer : (performNavigator call s).1 with
  | error e => simp [hAnswer] at hOutput
  | ok accepted =>
      simp only [hAnswer, beq_iff_eq] at hOutput
      rcases performNavigator_cases call s with ⟨_, hNot⟩ | ⟨_, _, _, hOwn, hStore, hAccepted⟩
      · exact absurd hAnswer (hNot accepted (by rw [hPresents]; rfl))
      · obtain ⟨hTimestamp, hTrue⟩ := hAccepted accepted hAnswer
        rw [hOwn] at hPresents
        cases hPresents
        subst hOutput hTimestamp
        obtain ⟨hBefore, hRecorded, hAbsent⟩ := consumeConnectorRequestId_accepted hTrue
        rw [hStore]
        refine ⟨hBefore, ?_, hRecorded⟩
        intro hRow
        exact hAbsent _ hRow hBefore ⟨rfl, rfl⟩

end Calls

/-- The seconds of nondecreasing clock readings are nondecreasing. -/
theorem seconds_pairwise {calls : List NavigatorCall}
    (hClock : (calls.flatMap NavigatorCall.readings).Pairwise (· ≤ ·)) :
    calls.Pairwise fun c d => c.second ≤ d.second := by
  have hLast : ∀ call : NavigatorCall, ∃ clock ∈ call.readings, call.second = truncate clock := by
    intro call
    cases call with
    | verify authenticator request requestId clock clock' => exact ⟨clock', by simp
        [NavigatorCall.readings], rfl⟩
    | consumeRequestId authenticator keyId requestId timestamp clock => exact ⟨clock, by simp
        [NavigatorCall.readings], rfl⟩
  induction calls with
  | nil => exact List.Pairwise.nil
  | cons call rest ih =>
      rw [List.flatMap_cons, List.pairwise_append] at hClock
      obtain ⟨_, hRest, hBetween⟩ := hClock
      refine List.pairwise_cons.mpr ⟨fun later hLater => ?_, ih hRest⟩
      obtain ⟨clock, hMem, hSecond⟩ := hLast call
      obtain ⟨clock', hMem', hSecond'⟩ := hLast later
      rw [hSecond, hSecond']
      exact truncate_mono (hBetween clock hMem clock' (List.mem_flatMap.mpr ⟨later, hLater, hMem'⟩))

/-- Whatever is presented, and whatever clock readings it meets, no triple of
key id, request id and signed timestamp passes twice. -/
theorem navigator_request_passes_once (calls : List NavigatorCall)
    (hClock : (calls.flatMap NavigatorCall.readings).Pairwise (· ≤ ·)) (keyId requestId : String)
    (timestamp : Int) :
    (trace performNavigator calls {}).countP (NavigatorEvent.passes keyId requestId timestamp) ≤
      1 := by
  have hAlways : Preserves performNavigator (fun _ _ => True) fun _ => True :=
    fun _ _ _ _ => trivial
  refine countP_le_one_of_deadline (fun _ => True)
    (fun s => s.Recorded keyId requestId (timestamp + maxContextSkewSeconds)) NavigatorCall.second
    (timestamp + maxContextSkewSeconds) (NavigatorEvent.passes keyId requestId timestamp)
    hAlways ?_ ?_ ?_ trivial
    (admitted_of_forall (fun _ _ => trivial) calls _) (seconds_pairwise hClock)
  · exact fun _ _ _ _ hRecorded hBefore => performNavigator_recorded hRecorded hBefore
  · intro s call _ _ hPasses
    obtain ⟨hBefore, hAbsent, _⟩ := performNavigator_passes hPasses
    exact ⟨hBefore, hAbsent⟩
  · intro s call _ _ hPasses
    exact (performNavigator_passes hPasses).2.2

section Sample

def sampleAuthenticator : NavigatorAuthenticator where
  keyId := some "navigator"
  key := .ok []
  hmac := fun _ _ => String.ofList (List.replicate 64 'a')
  round := id

def sampleRequest : NavigatorRequest where
  method := "POST"
  path := "/internal/v1/connector-operations"
  keyId := "navigator"
  timestamp := "100"
  signature := String.ofList (List.replicate 64 'a')
  rawBody := []

/-- One request presented at both ends of its window, and just inside. -/
def sampleNavigatorCalls : List NavigatorCall := [
  .verify sampleAuthenticator sampleRequest (some "request") 95 95,
  .verify sampleAuthenticator sampleRequest (some "request") (2599 / 20) (2599 / 20),
  .verify sampleAuthenticator sampleRequest (some "request") 130 130]

theorem navigator_request_passes_once_sample :
    (trace performNavigator sampleNavigatorCalls {}).countP
      (NavigatorEvent.passes "navigator" "request" 100) = 1 := by
  have hAtMost := navigator_request_passes_once sampleNavigatorCalls (by decide +kernel)
    "navigator" "request" 100
  have hSome : 0 < (trace performNavigator sampleNavigatorCalls {}).countP
      (NavigatorEvent.passes "navigator" "request" 100) := by decide +kernel
  exact Nat.le_antisymm hAtMost hSome

end Sample

end CyreneExchange.Integrations
