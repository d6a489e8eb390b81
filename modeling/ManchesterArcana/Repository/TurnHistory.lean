import ManchesterArcana.Core.Identifier
import ManchesterArcana.Effect.Guard
import ManchesterArcana.Effect.Run
import ManchesterArcana.Store.Filter
import ManchesterArcana.Store.Paging
import Mathlib.Data.List.Sort

/-!
# `Repository.TurnHistory` — committed turns and the history read back from them

`repository.rs` commits a session event by inserting a turn document; `repository/lifecycle.rs` pages through
the same collection with a struct of its own. The two declarations differ: the writer stores `actor_id`,
`mode` and `phase` beside the fields that the reader declares, and the reader denies unknown fields.

The payload of an event is opaque to the store. A `SessionPayload` says what the commit asks of it, and the
encoding of a whole event as a stored value is the codec that both structs share.
-/

namespace ManchesterArcana.Repository

open Effect Store

def storageSchemaVersion : Nat := 1
def sessionSchemaVersion : Nat := 1
def campaignLifecycleSchemaVersion : Nat := 1
def campaignHistoryMaxLimit : Nat := 100
def maxSessionTitleChars : Nat := 200
def maxPartyCharacters : Nat := 64
/-- `i64::MAX`, the largest number the store holds. -/
def i64Max : Nat := 2 ^ 63 - 1

inductive RepositoryError where
  | invalidDomainState (entity id reason : String)
  | unsupportedSchemaVersion (entity : String) (found supported : Nat)
  | coreValidation (entity id reason : String)
  | notFound (entity id : String)
  | revisionConflict (entity id : String) (expected actual : Nat)
  | alreadyExists (entity id : String)
  | numericRange (field : String)
  | bsonDecoding (entity : String)
  | persistence (operation : String)
  deriving DecidableEq, Repr

def toI64 (value : Nat) (field : String) : Except RepositoryError Int := do
  rejectIf (i64Max < value) (.numericRange field)
  return value

def validateOpaque (entity id : String) : Except RepositoryError Unit :=
  rejectIf (isValidOpaqueId id = false)
    (.invalidDomainState entity id "identifier must be a valid opaque identifier")

/-! ## Sessions and events -/

inductive SessionStatus where
  | active
  | completed
  deriving DecidableEq, Repr

structure SessionDto where
  schemaVersion : Nat
  id : String
  ruleset : String
  title : String
  status : SessionStatus
  characterIds : List String
  createdAtUnixMs : Nat
  updatedAtUnixMs : Nat
  lastEventSequence : Nat
  deriving DecidableEq, Repr

def SessionDto.validate (session : SessionDto) : Except String Unit := do
  rejectIf (session.schemaVersion ≠ sessionSchemaVersion) "schema version is unsupported"
  rejectIf (isValidOpaqueId session.id = false ∨ isBlank session.title = true ∨
      maxSessionTitleChars < session.title.length ∨ session.updatedAtUnixMs < session.createdAtUnixMs ∨
      maxPartyCharacters < session.characterIds.length ∨
      session.characterIds.any (fun id => !isValidOpaqueId id) = true)
    "identity, title, timestamps, or party roster is invalid"
  rejectIf (¬ session.characterIds.Nodup) "party character ids must be unique"

inductive EventActor where
  | player (characterId : String)
  | aiGameMaster
  | system
  deriving DecidableEq, Repr

structure SessionEventDto (π : Type) where
  schemaVersion : Nat
  sessionId : String
  sequence : Nat
  occurredAtUnixMs : Nat
  actor : EventActor
  payload : π
  deriving DecidableEq, Repr

/-- What a commit asks of an event's payload: its own rules, the character it names, and whether it ends the
    session or resolves an encounter. -/
structure SessionPayload (π : Type) where
  validate : SessionEventDto π → Except String Unit
  characterId : π → Option String
  endsSession : π → Bool
  resolvesEncounter : π → Bool

variable {π : Type}

def SessionEventDto.validate (payloads : SessionPayload π) (event : SessionEventDto π) :
    Except String Unit := do
  rejectIf (event.schemaVersion ≠ sessionSchemaVersion) "schema version is unsupported"
  rejectIf (isValidOpaqueId event.sessionId = false ∨ event.sequence = 0)
    "session id must be present and sequence must start at one"
  match event.actor with
  | .player characterId =>
    rejectIf (isValidOpaqueId characterId = false) "player actor character id must not be empty"
  | .aiGameMaster | .system => .ok ()
  payloads.validate event

/-! ## The turn document as it is written -/

/-- How a whole event is stored inside a turn document. -/
structure EventCodec (π : Type) where
  encode : SessionEventDto π → Bson
  decode : Bson → Option (SessionEventDto π)

/-- `TurnEventDocument` of `repository.rs`, the struct that is inserted. -/
structure CommittedTurn (π : Type) where
  id : String
  schemaVersion : Nat
  campaignId : String
  playSessionId : String
  sequence : Nat
  correlationId : String
  actorAccountId : String
  actorId : Option String
  mode : String
  phase : String
  event : SessionEventDto π
  createdAt : Int

/-- The stored form; an absent `actor_id` is skipped. -/
def CommittedTurn.document (codec : EventCodec π) (turn : CommittedTurn π) : Document :=
  [("_id", .string turn.id), ("schema_version", .integer turn.schemaVersion),
    ("campaign_id", .string turn.campaignId), ("play_session_id", .string turn.playSessionId),
    ("sequence", .integer turn.sequence), ("correlation_id", .string turn.correlationId),
    ("actor_account_id", .string turn.actorAccountId)] ++
  (match turn.actorId with
    | some id => [("actor_id", Bson.string id)]
    | none => []) ++
  [("mode", .string turn.mode), ("phase", .string turn.phase), ("event", codec.encode turn.event),
    ("created_at", .dateTime turn.createdAt)]

/-! ## The turn document as it is read -/

/-- `TurnEventDocument` of `repository/lifecycle.rs`, the struct that is deserialized. -/
structure TurnEventDocument (π : Type) where
  id : String
  schemaVersion : Int
  campaignId : String
  playSessionId : String
  sequence : Int
  correlationId : Option String
  actorAccountId : Option String
  event : SessionEventDto π
  createdAt : Int

/-- The fields the reader declares; it denies all others. -/
def turnEventFields : List String :=
  ["_id", "schema_version", "campaign_id", "play_session_id", "sequence", "correlation_id",
    "actor_account_id", "event", "created_at"]

def TurnEventDocument.decode (codec : EventCodec π) (d : Document) : Option (TurnEventDocument π) := do
  d.onlyKeys turnEventFields
  let id ← d.getStr "_id"
  let schemaVersion ← d.getInt "schema_version"
  let campaignId ← d.getStr "campaign_id"
  let playSessionId ← d.getStr "play_session_id"
  let sequence ← d.getInt "sequence"
  let correlationId ← d.getOptionalStr "correlation_id"
  let actorAccountId ← d.getOptionalStr "actor_account_id"
  let event ← (d.get "event").bind codec.decode
  let createdAt ← d.getDateTime "created_at"
  return ⟨id, schemaVersion, campaignId, playSessionId, sequence, correlationId, actorAccountId, event,
    createdAt⟩

structure CampaignTurnHistoryItem (π : Type) where
  schemaVersion : Nat
  id : String
  campaignSessionId : String
  turnNumber : Nat
  actorId : Option String
  correlationId : Option String
  event : SessionEventDto π
  createdAt : Int

/-- The dates, in milliseconds, that RFC 3339 can write: years 0 to 9999. -/
def isRfc3339Date (ms : Int) : Bool := decide (-62167219200000 ≤ ms ∧ ms ≤ 253402300799999)

def turnHistoryFromDocument (payloads : SessionPayload π) (document : TurnEventDocument π) :
    Except RepositoryError (CampaignTurnHistoryItem π) := do
  rejectIf (document.sequence ≤ 0 ∨ document.event.sessionId ≠ document.campaignId ∨
      document.event.sequence ≠ document.sequence.toNat)
    (.invalidDomainState "campaign turn event" document.id
      "event envelope does not match stored campaign sequence")
  (document.event.validate payloads).mapError (.coreValidation "campaign turn event" document.id)
  rejectIf (document.schemaVersion < 0 ∨ 2 ^ 32 ≤ document.schemaVersion)
    (.numericRange "turn event schema version")
  rejectIf (isRfc3339Date document.createdAt = false) (.persistence "turn_events")
  return {
    schemaVersion := document.schemaVersion.toNat
    id := document.id
    campaignSessionId := document.campaignId
    turnNumber := document.sequence.toNat
    actorId := document.actorAccountId
    correlationId := document.correlationId
    event := document.event
    createdAt := document.createdAt }

/-! ## The campaign and its turn collection -/

structure CampaignMember where
  accountId : String
  role : String
  state : String
  deriving DecidableEq, Repr

/-- What the commit and the history read of a campaign. -/
structure Campaign where
  id : String
  ownerAccountId : String
  members : List CampaignMember
  lifecycleState : String
  gameplayRevision : Nat
  session : SessionDto

def Campaign.activeMember (campaign : Campaign) (account : String) : Bool :=
  campaign.members.any fun member => member.accountId == account && member.state == "active"

def Campaign.activeGameMaster (campaign : Campaign) (account : String) : Bool :=
  campaign.members.any fun member =>
    member.accountId == account && member.role == "game_master" && member.state == "active"

/-- `active_campaign_filter` -/
def Campaign.accessible (campaign : Campaign) (account id : String) : Bool :=
  campaign.id == id && campaign.lifecycleState != "deleted" &&
    (campaign.ownerAccountId == account || campaign.activeMember account)

structure TurnStore where
  campaign : Campaign
  /-- The whole collection, the turns of other campaigns included. -/
  turnEvents : List Document

/-- The turns of one campaign, in stored order. -/
def TurnStore.turnsOf (s : TurnStore) (campaignId : String) : List Document :=
  findDocs (.field "campaign_id" (.equals (.string campaignId))) s.turnEvents

/-! ## Committing an event -/

/-- The arguments of one commit, with what the store answers: the play session it finds active for the
    actor, the time, and whether the writes to the documents of characters, hero, encounter, play session,
    audit and receipt go through. -/
structure CommitRequest (π : Type) where
  actorAccountId : String
  auditId : String
  session : SessionDto
  expectedRevision : Nat
  event : SessionEventDto π
  correlationId : Option String
  now : Int
  activePlaySession : Option String
  otherWrites : Except RepositoryError Unit

def validateSession (session : SessionDto) : Except RepositoryError Unit := do
  rejectIf (session.schemaVersion ≠ sessionSchemaVersion)
    (.unsupportedSchemaVersion "campaign session" session.schemaVersion sessionSchemaVersion)
  session.validate.mapError (.coreValidation "campaign session" session.id)

def validateSessionEvent (payloads : SessionPayload π) (event : SessionEventDto π) :
    Except RepositoryError Unit := do
  rejectIf (event.schemaVersion ≠ sessionSchemaVersion)
    (.unsupportedSchemaVersion "session event" event.schemaVersion sessionSchemaVersion)
  (event.validate payloads).mapError
    (.coreValidation "session event" (event.sessionId ++ ":" ++ toString event.sequence))

def eventReferencesUnknownCharacter (payloads : SessionPayload π) (session : SessionDto)
    (event : SessionEventDto π) : Bool :=
  let known (id : String) : Bool := session.characterIds.contains id
  (match event.actor with
    | .player characterId => !known characterId
    | .aiGameMaster | .system => false) ||
  (match payloads.characterId event.payload with
    | some characterId => !known characterId
    | none => false)

def validateSessionSuccessor (payloads : SessionPayload π) (current : Campaign) (submitted : SessionDto)
    (expectedRevision : Nat) (event : SessionEventDto π) (auditId : String) :
    Except RepositoryError Unit := do
  rejectIf (current.gameplayRevision ≠ expectedRevision)
    (.revisionConflict "campaign session" submitted.id expectedRevision current.gameplayRevision)
  rejectIf (2 ^ 64 ≤ current.session.lastEventSequence + 1) (.numericRange "event sequence")
  rejectIf (event.sequence ≠ current.session.lastEventSequence + 1)
    (.invalidDomainState "session event" auditId
      "event sequence must immediately follow the stored session sequence")
  rejectIf (submitted.ruleset ≠ current.session.ruleset ∨
      submitted.createdAtUnixMs ≠ current.session.createdAtUnixMs ∨
      submitted.title ≠ current.session.title ∨ submitted.characterIds ≠ current.session.characterIds)
    (.invalidDomainState "campaign session" submitted.id
      "turn events cannot rewrite campaign identity, rules, or roster")
  rejectIf (¬ (current.session.status = .active ∧
      submitted.status = if payloads.endsSession event.payload then .completed else .active))
    (.invalidDomainState "campaign session" submitted.id
      "session status transition is invalid for this event")
  rejectIf (event.occurredAtUnixMs < current.session.updatedAtUnixMs ∨
      submitted.updatedAtUnixMs < current.session.updatedAtUnixMs ∨
      submitted.updatedAtUnixMs < event.occurredAtUnixMs)
    (.invalidDomainState "campaign session" submitted.id
      "event and session timestamps must advance monotonically")

def eventMode (payloads : SessionPayload π) (event : SessionEventDto π) : String :=
  if payloads.resolvesEncounter event.payload then "battle" else "exploration"

/-- The turn a commit prepares; the play session is filled in inside the transaction. -/
def preparedTurn (payloads : SessionPayload π) (request : CommitRequest π) (playSessionId : String) :
    CommittedTurn π where
  id := request.auditId
  schemaVersion := storageSchemaVersion
  campaignId := request.session.id
  playSessionId := playSessionId
  sequence := request.event.sequence
  correlationId := request.correlationId.getD request.auditId
  actorAccountId := request.actorAccountId
  actorId := match request.event.actor with
    | .player characterId => some characterId
    | .aiGameMaster | .system => none
  mode := eventMode payloads request.event
  phase := "committed"
  event := request.event
  createdAt := request.now

def commitSessionEventInternal (payloads : SessionPayload π) (codec : EventCodec π) (s : TurnStore)
    (request : CommitRequest π) : Except RepositoryError TurnStore := do
  validateOpaque "account" request.actorAccountId
  validateSession request.session
  validateSessionEvent payloads request.event
  validateOpaque "session event" request.auditId
  rejectIf (request.correlationId.any (fun value => !isValidOpaqueId value) = true)
    (.invalidDomainState "session event" request.auditId
      "correlation id must be a valid opaque identifier")
  rejectIf (request.session.id ≠ request.event.sessionId ∨
      request.session.lastEventSequence ≠ request.event.sequence)
    (.invalidDomainState "session event" request.auditId
      "session snapshot and event identity or sequence do not match")
  rejectIf (eventReferencesUnknownCharacter payloads request.session request.event = true)
    (.invalidDomainState "session event" request.auditId
      "event references a character outside the campaign session")
  rejectIf (s.campaign.accessible request.actorAccountId request.session.id = false)
    (.notFound "campaign session" request.session.id)
  validateSessionSuccessor payloads s.campaign request.session request.expectedRevision request.event
    request.auditId
  rejectIf (2 ^ 64 ≤ request.expectedRevision + 1) (.numericRange "revision")
  let _ ← toI64 request.expectedRevision "revision"
  let sequence ← toI64 request.event.sequence "event sequence"
  let _ ← toI64 (request.expectedRevision + 1) "revision"
  let playSession ← okOr request.activePlaySession (.notFound "active play session" request.session.id)
  rejectIf (s.campaign.lifecycleState ≠ "open")
    (.revisionConflict "campaign session" request.session.id request.expectedRevision
      s.campaign.gameplayRevision)
  request.otherWrites
  -- The unique index on play session and sequence.
  rejectIf (s.turnEvents.any (fun d => d.getStr "play_session_id" == some playSession &&
      d.getInt "sequence" == some sequence) = true) (.persistence "insert turn event")
  return {
    campaign := { s.campaign with
      session := request.session, gameplayRevision := s.campaign.gameplayRevision + 1 }
    turnEvents := s.turnEvents ++ [(preparedTurn payloads request playSession).document codec] }

/-- Commits one after the other, all of which succeed. -/
def commitAll (payloads : SessionPayload π) (codec : EventCodec π) (s : TurnStore) :
    List (CommitRequest π) → Except RepositoryError TurnStore
  | [] => .ok s
  | request :: rest => do
    let s ← commitSessionEventInternal payloads codec s request
    commitAll payloads codec s rest

/-! ## Listing the history -/

/-- The sort of the cursor: by sequence, then by id. -/
def historyOrder (a b : Document) : Bool :=
  let sequence (d : Document) : Int := (d.getInt "sequence").getD 0
  let id (d : Document) : String := (d.getStr "_id").getD ""
  decide (sequence a < sequence b) || (sequence a == sequence b && decide (id a ≤ id b))

structure CampaignTurnHistoryPage (π : Type) where
  schemaVersion : Nat
  campaignSessionId : String
  items : List (CampaignTurnHistoryItem π)
  nextAfterTurnNumber : Option Nat

/-- Decode one document of the cursor and turn it into a history item. -/
def historyItem (payloads : SessionPayload π) (codec : EventCodec π) (d : Document) :
    Except RepositoryError (List (CampaignTurnHistoryItem π)) := do
  let document ← okOr (TurnEventDocument.decode codec d) (.bsonDecoding "decode campaign turn history")
  let item ← turnHistoryFromDocument payloads document
  return [item]

def listCampaignTurnHistory (payloads : SessionPayload π) (codec : EventCodec π) (s : TurnStore)
    (ownerKey campaignSessionId : String) (afterTurnNumber : Option Nat) (limit : Nat) :
    Except RepositoryError (CampaignTurnHistoryPage π) := do
  rejectIf (isValidOpaqueId ownerKey = false)
    (.invalidDomainState "campaign owner" ownerKey "owner account identifier is invalid")
  rejectIf (isValidOpaqueId campaignSessionId = false)
    (.invalidDomainState "campaign session" campaignSessionId "campaign identifier is invalid")
  rejectIf (limit = 0 ∨ campaignHistoryMaxLimit < limit)
    (.invalidDomainState "campaign turn history" campaignSessionId "limit is outside the supported range")
  rejectIf (¬ (s.campaign.id = campaignSessionId ∧ s.campaign.ownerAccountId = ownerKey ∧
      s.campaign.activeGameMaster ownerKey = true)) (.notFound "campaign_session" campaignSessionId)
  let after ← toI64 (afterTurnNumber.getD 0) "turn history cursor"
  let found := findDocs (.both (.field "campaign_id" (.equals (.string campaignSessionId)))
    (.field "sequence" (.greaterThan after))) s.turnEvents
  let items ← gather (historyItem payloads codec) ((found.mergeSort historyOrder).take (limit + 1))
  if limit < items.length then
    return {
      schemaVersion := campaignLifecycleSchemaVersion, campaignSessionId := campaignSessionId
      items := items.take limit
      nextAfterTurnNumber := (items.take limit).getLast?.map (·.turnNumber) }
  else
    return {
      schemaVersion := campaignLifecycleSchemaVersion, campaignSessionId := campaignSessionId
      items := items, nextAfterTurnNumber := none }

/-- One fetch of a reader that follows the cursor. -/
def fetchHistory (payloads : SessionPayload π) (codec : EventCodec π) (s : TurnStore)
    (ownerKey campaignSessionId : String) (limit after : Nat) :
    Except RepositoryError (List (CampaignTurnHistoryItem π) × Option Nat) :=
  (listCampaignTurnHistory payloads codec s ownerKey campaignSessionId (some after) limit).map
    fun page => (page.items, page.nextAfterTurnNumber)

end ManchesterArcana.Repository
