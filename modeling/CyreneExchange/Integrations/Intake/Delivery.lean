import CyreneExchange.Integrations.Intake.Admission
import CyreneExchange.Integrations.Intake.Methods

/-! One delivery of an authenticated WeCom message. Every store call is one
step and every Account Center call another, and a crashed delivery is one that
takes no further step. Signature and envelope checks lie before this module. -/
namespace CyreneExchange.Integrations

open Transaction

/-- One host-resolved group binding accepted at the public hook. -/
structure WeComInboundSource where
  bindingId : UUID
  organizationId : String
  workspaceId : String
  sourceAuthority : String
  botNamespace : String
  accountId : String
  groupConversationId : String
deriving DecidableEq, Repr

inductive ConversationKind where
  | privateChat | group
deriving DecidableEq, Repr

def ConversationKind.text : ConversationKind → String
  | .privateChat => "private"
  | .group => "group"

/-- One content part of the canonical message. -/
inductive MessageContent where
  | text (value : String)
  | other
deriving DecidableEq, Repr

/-- A verified envelope with its decoded canonical message. -/
structure WeComInboundEnvelope where
  conversationId : String
  conversationKind : ConversationKind
  sourceEventId : String
  senderId : String
  fromSelf : Bool
  sourceTransportRequestId : String
  messageId : String
  content : List MessageContent
  rawBodySha256 : String
deriving DecidableEq, Repr

/-- `_single_text_content`. -/
def singleTextContent (content : List MessageContent) : String :=
  match content with
  | [.text value] => if value.length ≤ 4096 then value else ""
  | _ => ""

def linkCharacter (c : Char) : Bool :=
  c.isAlphanum || c == '.' || c == '_' || c == '~' || c == '-'

/-- `_LINK_COMMAND.fullmatch`, with the challenge value it captures. -/
def linkChallenge (text : String) : Option String :=
  match text.toList with
  | '/' :: 'l' :: 'i' :: 'n' :: 'k' :: rest =>
      let blank := fun c => c == ' ' || c == '\t'
      let value := rest.dropWhile blank
      if (rest.head?.any blank) ∧ 16 ≤ value.length ∧ value.length ≤ 128 ∧
          value.all linkCharacter = true then
        some (String.ofList value)
      else none
  | _ => none

/-- `str.removeprefix`. -/
def removeLead (lead text : String) : String :=
  if startsWith text lead then String.ofList (text.toList.drop lead.length) else text

def selfAuthored (source : WeComInboundSource) (envelope : WeComInboundEnvelope) : Bool :=
  envelope.fromSelf || envelope.senderId == removeLead "bot:" source.accountId

/-- The Account Center's answer about an external sender. -/
structure LinkedSender where
  issuer : String
  subject : String
  organizationId : String
  workspaceId : Option String
deriving DecidableEq, Repr

/-- What the world outside the store contributes to one step: the clock and
fresh identifiers, the link of the sender, and the answer to an observation;
`none` is a call that raised. -/
structure Surroundings where
  draw : Draw
  linked : Option (Option LinkedSender)
  observed : Option Json

/-- Where a delivery stands. -/
inductive DeliveryStage where
  | received (source : WeComInboundSource) (envelope : WeComInboundEnvelope)
  | resolving (source : WeComInboundSource) (envelope : WeComInboundEnvelope) (eventId : UUID)
      (commandText : String)
  | enqueueing (bindingId eventId : UUID) (stage : EnqueueStage)
  | marking (bindingId eventId : UUID) (state : WeComEventState) (operationId : Option UUID)
  | claiming (bindingId eventId : UUID) (challengeValue : String)
  | observing (bindingId eventId : UUID) (challengeValue : String)
  | replying (bindingId eventId : UUID)
  | abandoning (bindingId eventId : UUID)
deriving DecidableEq, Repr

/-- What one step of a delivery leads to. An exception of the Account Center
that nothing catches is `raises none`. -/
inductive DeliveryProgress where
  | continues (stage : DeliveryStage)
  | acknowledges (eventId : UUID)
  | raises (e : Option StoreError)

/-- What the hook persists before anything else. -/
def inboundMessage (source : WeComInboundSource) (envelope : WeComInboundEnvelope)
    (draw : Draw) : WeComMessage where
  bindingId := source.bindingId
  sourceEventId := envelope.sourceEventId
  expectedOrganizationId := source.organizationId
  expectedWorkspaceId := source.workspaceId
  senderId := envelope.senderId
  conversationRef := envelope.conversationKind.text ++ ":" ++ envelope.conversationId
  replyMessageId := some envelope.messageId
  replyContextRef := some envelope.sourceTransportRequestId
  messageText := singleTextContent envelope.content
  verified := true
  payloadFingerprint := some envelope.rawBodySha256
  selfAuthored := selfAuthored source envelope
  observedAt := draw.now
  eventUuid := draw.first

/-- `admit_wecom_event` after the event is persisted. -/
def routeInbound (source : WeComInboundSource) (envelope : WeComInboundEnvelope)
    (event : WeComInboundEvent) : DeliveryProgress :=
  let text := singleTextContent envelope.content
  let mark := fun state => .continues (.marking source.bindingId event.id state none)
  if selfAuthored source envelope ∨ event.state = .ignoredSelf then .acknowledges event.id
  else if event.state = .challengeObserving ∧ envelope.conversationKind = .privateChat then
    match linkChallenge text with
    | some value => .continues (.claiming source.bindingId event.id value)
    | none => .acknowledges event.id
  else if event.state ≠ .received then .acknowledges event.id
  else if envelope.conversationKind = .group then
    if envelope.conversationId ≠ source.groupConversationId then mark .ignoredScope
    else if ¬ startsWith text "/issue" then mark .ignoredNonCommand
    else match parseIssueCommand text with
      | .error _ => mark .ignoredInvalidCommand
      | .ok _ => .continues (.resolving source envelope event.id text)
  else match linkChallenge text with
    | some value => .continues (.claiming source.bindingId event.id value)
    | none =>
        if startsWith text "/issue" then mark .ignoredScope else mark .ignoredNonCommand

/-- The command a delivery hands to the store for a linked sender. -/
def issueCommand (source : WeComInboundSource) (envelope : WeComInboundEnvelope) (eventId : UUID)
    (commandText : String) (linked : LinkedSender) : IssueCommand where
  bindingId := source.bindingId
  scope := ⟨source.organizationId, source.workspaceId, linked.issuer, linked.subject⟩
  sourceEventRef := eventId.text
  sourceSenderId := envelope.senderId
  idempotencyKey := "wecom:" ++ source.bindingId.text ++ ":" ++ eventId.text
  commandText := commandText

/-- `_admit_issue_command` once the Account Center has answered. -/
def resolveSender (source : WeComInboundSource) (envelope : WeComInboundEnvelope)
    (eventId : UUID) (commandText : String) (linked : Option LinkedSender) : DeliveryProgress :=
  match linked with
  | none => .continues (.marking source.bindingId eventId .ignoredUnlinked none)
  | some linked =>
      if linked.organizationId ≠ source.organizationId ∨
          conflictsWith linked.workspaceId source.workspaceId = true then
        .continues (.marking source.bindingId eventId .ignoredScope none)
      else .continues (.enqueueing source.bindingId eventId
        (.command (issueCommand source envelope eventId commandText linked)))

/-- The observation was accepted for exactly this challenge. -/
def acceptedObservation (eventId : UUID) (observed : Option Json) : Bool :=
  match observed.bind Json.asObj with
  | none => false
  | some answer =>
      (match answer.get "accepted" with
        | some (.bool true) => true
        | _ => false) &&
      (answer.get "challenge_id").bind Json.asStr == some eventId.text

/-- One step of a delivery: a store call, or an answer from outside. -/
def DeliveryStage.advance (sha256 : String → String) (world : Surroundings) (s : Store) :
    DeliveryStage → DeliveryProgress × Store
  | .received source envelope =>
      match commit (persistWecomInbound sha256 (inboundMessage source envelope world.draw)) s with
      | (.ok (event, _), t) => (routeInbound source envelope event, t)
      | (.error e, t) => (.raises (some e), t)
  | .resolving source envelope eventId commandText =>
      match world.linked with
      | none => (.raises none, s)
      | some linked => (resolveSender source envelope eventId commandText linked, s)
  | .enqueueing bindingId eventId stage =>
      match commit (stage.body sha256 world.draw) s with
      | (.ok (.continues next), t) => (.continues (.enqueueing bindingId eventId next), t)
      | (.ok (.returns operation), t) =>
          (.continues (.marking bindingId eventId .commandQueued (some operation.id)), t)
      | (.error (.authorization _), t) =>
          (.continues (.marking bindingId eventId .ignoredUnbound none), t)
      | (.error (.notFound _), t) =>
          (.continues (.marking bindingId eventId .ignoredUnbound none), t)
      | (.error e, t) => (.raises (some e), t)
  | .marking bindingId eventId state operationId =>
      match commit (markWecomInboundProcessed eventId bindingId state operationId) s with
      | (.ok _, t) => (.acknowledges eventId, t)
      | (.error e, t) => (.raises (some e), t)
  | .claiming bindingId eventId challengeValue =>
      match commit (beginWecomChallengeObservation bindingId eventId.text) s with
      | (.ok (_, true), t) => (.continues (.observing bindingId eventId challengeValue), t)
      | (.ok (_, false), t) => (.acknowledges eventId, t)
      | (.error e, t) => (.raises (some e), t)
  | .observing bindingId eventId _ =>
      if acceptedObservation eventId world.observed then
        (.continues (.replying bindingId eventId), s)
      else (.continues (.abandoning bindingId eventId), s)
  | .replying bindingId eventId =>
      match commit (enqueueWecomChallengeReply bindingId eventId.text eventId.text
          world.draw.first world.draw.now) s with
      | (.ok _, t) => (.acknowledges eventId, t)
      | (.error _, t) => (.continues (.abandoning bindingId eventId), t)
  | .abandoning bindingId eventId =>
      match commit (markWecomChallengeUnknown bindingId eventId.text) s with
      | (.ok _, t) => (.acknowledges eventId, t)
      | (.error e, t) => (.raises (some e), t)

end CyreneExchange.Integrations
