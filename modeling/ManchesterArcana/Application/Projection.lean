import ManchesterArcana.Application.Outcome
import ManchesterArcana.Repository.TurnHistory

/-!
# `Application.Projection` — the encounter, rebuilt from the stored events

An encounter is stored only as the events of its session. `projectEncounter` opens it again and replays every
encounter event: the recorded dice must be those of the campaign's stream, in order and without a gap, and the
engine, fed with them, must compute the recorded resolution. What is left is the current state and the cursor
of the next die.
-/

namespace ManchesterArcana.Application

open Effect Encounter Repository Rules

def localCampaignSessionId : String := "local-campaign"
def localCharacterId : String := "local-hero"
def localExplorationActionId : String := "inspect-viaduct-runes"
def localHeroOwnerKey : String := "local-owner"

/-- What a call to the repository can fail with. -/
inductive StoreError where
  | repository (error : RepositoryError)
  | idempotencyConflict (scopeKind scopeId idempotencyKey : String)
  deriving DecidableEq

/-- The errors of the application that the encounter path raises. `aborted` is a panic of the engine, which
    no caller sees as an error. -/
inductive ApplicationError where
  | hostedAccessDenied
  | invalidCommand (error : DomainError)
  | invalidOutcome (error : DomainError)
  | encounterUnavailable
  | invalidEncounterCommand (error : EncounterError)
  | notPlayerTurn
  | npcTurnUnavailable
  | encounterRules (error : EncounterError)
  | hero (reason : String)
  | roll (error : RollError)
  | seedVault
  | wrongCampaign
  | campaignCompleted
  | campaignPinsUnsealed
  | campaignPinsQuarantined
  | campaignArchived
  | revisionConflict (expected currentRevision : Nat)
  | encounterRevisionConflict (expected currentRevision : Nat)
  | idempotencyConflict
  | serialization
  | storedResponse
  | invalidStoredState
  | repository (error : StoreError)
  | aborted (why : String)
  deriving DecidableEq

/-- A document of the store with the revision it has there. -/
structure StoredDocument (α : Type) where
  id : String
  revision : Nat
  value : α

/-! ## Session events -/

inductive EncounterCommandOrigin where
  | legacySystem
  | player
  | deterministicPolicy (policyId : String)
  deriving DecidableEq

/-- The payloads that the encounter path reads; every other kind of event is passed over. -/
inductive SessionEventPayload where
  | abilityCheckResolved (characterId actionId : String) (result : AbilityCheckResult)
  | encounterResolved (command : CommitEncounterCommand) (outcome : CommittedEncounterOutcomeDto)
      (commandOrigin : EncounterCommandOrigin)
  | other (kind : String)
  deriving DecidableEq

structure TurnAudit (α : Type) where
  id : String
  campaignSessionId : String
  turnNumber : Nat
  payload : α

/-- A stored session event. -/
abbrev StoredEvent := TurnAudit (SessionEventDto SessionEventPayload)

def EncounterCommandOrigin.validate : EncounterCommandOrigin → Except DomainError Unit
  | .legacySystem | .player => .ok ()
  | .deterministicPolicy policyId =>
    rejectIf (policyId ≠ sootWightPolicyId)
      (.invalidSessionEvent "encounter command policy provenance is invalid")

/-- The rules of the payload within its event. -/
def SessionEventPayload.validate (event : SessionEventDto SessionEventPayload) : Except DomainError Unit :=
  match event.payload with
  | .abilityCheckResolved characterId actionId result => do
    rejectIf (event.actor ≠ .system ∨ isValidOpaqueId characterId = false ∨ isValidOpaqueId actionId = false)
      (.invalidSessionEvent "ability-check event actor or identifiers are invalid")
    result.validate
  | .encounterResolved command outcome commandOrigin => do
    command.validate
    outcome.validate
    commandOrigin.validate
    if commandOrigin ≠ .legacySystem then outcome.validatePlayerActionBoundary
    rejectIf (event.actor ≠ .system ∨ command.campaignSessionId ≠ event.sessionId ∨
        outcome.campaignSessionId ≠ event.sessionId ∨ outcome.eventSequence ≠ event.sequence ∨
        command.expectedCampaignRevision + 1 ≠ outcome.resultCampaignRevision ∨
        maxU64 < command.expectedCampaignRevision + 1 ∨
        command.command.encounterId ≠ outcome.resolution.encounterId ∨
        command.command.expectedRevision ≠ outcome.resolution.previousRevision)
      (.invalidSessionEvent "encounter event envelope, revisions, or state do not match")
  | .other _ => .ok ()

/-- `SessionEventDto::validate`. -/
def validateSessionEventDto (event : SessionEventDto SessionEventPayload) : Except DomainError Unit := do
  rejectIf (event.schemaVersion ≠ sessionSchemaVersion)
    (.invalidSessionEvent "schema version is unsupported")
  rejectIf (isValidOpaqueId event.sessionId = false ∨ event.sequence = 0)
    (.invalidSessionEvent "session id must be present and sequence must start at one")
  match event.actor with
  | .player characterId =>
    rejectIf (isValidOpaqueId characterId = false)
      (.invalidSessionEvent "player actor character id must not be empty")
  | .aiGameMaster | .system => .ok ()
  SessionEventPayload.validate event

/-- As many events as the session has counted, numbered from one, all of this session. -/
def validateEventStream (session : StoredDocument SessionDto) (events : List StoredEvent) :
    Except ApplicationError Unit := do
  rejectIf (events.length ≠ session.value.lastEventSequence) .invalidStoredState
  checkAll (fun (entry : StoredEvent × Nat) =>
    rejectIf (entry.1.campaignSessionId ≠ session.id ∨ entry.1.turnNumber ≠ entry.2 + 1 ∨
      entry.1.payload.sessionId ≠ session.id ∨ entry.1.payload.sequence ≠ entry.2 + 1) .invalidStoredState)
    events.zipIdx

/-- The outcome that an ability-check event stands for. -/
def checkOutcome (audit : StoredEvent) : Option ExplorationCheckOutcomeDto :=
  match audit.payload.payload with
  | .abilityCheckResolved characterId actionId result => some {
      schemaVersion := explorationCheckSchemaVersion
      campaignSessionId := audit.campaignSessionId
      characterId := characterId
      actionId := actionId
      resultRevision := audit.turnNumber + 1
      eventSequence := audit.turnNumber
      result := result }
  | _ => none

def latestExplorationCheck (events : List StoredEvent) :
    Except ApplicationError (Option ExplorationCheckOutcomeDto) :=
  match events.reverse.findSome? checkOutcome with
  | some outcome => do
    rejectIf (maxU64 < outcome.resultRevision) .invalidStoredState
    outcome.validate.mapError fun _ => .invalidStoredState
    return some outcome
  | none => .ok none

/-! ## Recorded dice -/

/-- The dice of a recorded resolution, handed out in order. -/
structure RecordedEncounterRolls where
  dice : List RawDieFact
  index : Nat
  invalid : Bool

namespace RecordedEncounterRolls

def fromResolution (resolution : EncounterResolution) : RecordedEncounterRolls where
  dice := resolution.rolls.flatMap (·.individualDice)
  index := 0
  invalid := false

/-- The next recorded die; running out, or a die of another size, spoils the replay. -/
def rollDie (source : RecordedEncounterRolls) (sides : Nat) : Nat × RecordedEncounterRolls :=
  match source.dice[source.index]? with
  | none => (0, { source with invalid := true })
  | some die =>
    if die.sides ≠ sides then (0, { source with index := source.index + 1, invalid := true })
    else (die.value, { source with index := source.index + 1 })

end RecordedEncounterRolls

/-- The engine, fed with the recorded dice, computes the recorded resolution and uses them up. -/
def replayRecorded (state : EncounterState) (command : EncounterCommand) (recorded : EncounterResolution) :
    Except ApplicationError EncounterResolution :=
  match (resolveEncounter state command).run RecordedEncounterRolls.rollDie (.fromResolution recorded) with
  | (.ok replayed, source) => do
    rejectIf (source.invalid = true ∨ source.index ≠ source.dice.length ∨ replayed ≠ recorded)
      .invalidStoredState
    return replayed
  | (.err _, _) => .error .invalidStoredState
  | (.panic why, _) => .error (.aborted why)

/-! ## The campaign's dice -/

/-- The dice of one roll are the stream's from `cursor` on; the cursor behind them. -/
def verifyDice (words : WordStream) : List RawDieFact → Nat → Except ApplicationError Nat
  | [], cursor => .ok cursor
  | die :: dice, cursor => do
    let (regenerated, next) ← (drawDie words die.sides cursor).mapError fun _ => .invalidStoredState
    rejectIf (regenerated ≠ die.value) .invalidStoredState
    verifyDice words dice next

/-- The same for the rolls of an outcome, against the cursor ranges of their records. -/
def verifyRolls (words : WordStream) (seedReference : String) :
    List (RawRollFacts × RollRecord) → Nat → Except ApplicationError Nat
  | [], cursor => .ok cursor
  | (raw, record) :: rest, cursor => do
    rejectIf (record.seedReference ≠ seedReference ∨ record.cursorBefore ≠ cursor) .invalidStoredState
    let next ← verifyDice words raw.individualDice cursor
    rejectIf (record.cursorAfter ≠ next) .invalidStoredState
    verifyRolls words seedReference rest next

/-! ## Projection -/

structure ProjectedEncounter where
  view : EncounterViewDto
  nextCursor : Nat

/-- What the loop over the events carries. -/
structure Replay where
  state : EncounterState
  latestOutcome : Option CommittedEncounterOutcomeDto
  cursor : Nat
  encounterStarted : Bool

/-- The schema version and hero of the first encounter event. -/
def firstEncounterProfile (events : List StoredEvent) : Option (Nat × Option EncounterHeroProfile) :=
  events.findSome? fun audit =>
    match audit.payload.payload with
    | .encounterResolved _ outcome _ =>
      some (outcome.resolution.state.schemaVersion, outcome.resolution.state.heroProfile)
    | _ => none

/-- The encounter as it was opened: for the hero of its first event, or for the current one. -/
def openingState (opening : OpeningConsequence) (first : Option (Nat × Option EncounterHeroProfile))
    (currentHeroProfile : Option EncounterHeroProfile) : EncounterResult EncounterState :=
  match first with
  | some (version, some profile) =>
    if version = encounterSchemaVersion then EncounterState.newForHero .storyRecovery opening profile
    else EncounterState.newForHeroForHistoricalReplay .storyRecovery opening profile version
  | some (version, none) => EncounterState.newAtSchema .storyRecovery opening version
  | none =>
    match currentHeroProfile with
    | some profile => EncounterState.newForHero .storyRecovery opening profile
    | none => .ok (EncounterState.new .storyRecovery opening)

/-- Who issued a command was entitled to it. -/
def verifyOrigin (state : EncounterState) (intent : EncounterIntent) :
    EncounterCommandOrigin → Except ApplicationError Unit
  | .legacySystem => .ok ()
  | .player => (requirePlayerControl state).mapError fun _ => .invalidStoredState
  | .deterministicPolicy policyId => do
    rejectIf (policyId ≠ sootWightPolicyId) .invalidStoredState
    let selected ← (selectSootWightPolicyIntent state).mapError fun _ => .invalidStoredState
    rejectIf (selected ≠ intent) .invalidStoredState

/-- An outcome as clients may see it, with the actions of the player only. -/
def publicOutcome (outcome : CommittedEncounterOutcomeDto) :
    Except ApplicationError CommittedEncounterOutcomeDto := do
  let legalActions ← (playerLegalActions outcome.resolution.state).mapError fun _ => .invalidStoredState
  let visible := { outcome with legalActions }
  visible.validatePlayerActionBoundary.mapError fun _ => .invalidStoredState
  return visible

/-- Replay one event. -/
def replayEvent (words : WordStream) (seedReference : String) (latestCheck : ExplorationCheckOutcomeDto)
    (replay : Replay) (audit : StoredEvent) : Except ApplicationError Replay :=
  match audit.payload.payload with
  | .abilityCheckResolved .. => do
    -- The opening consequence is fixed when the first encounter command commits.
    rejectIf (replay.encounterStarted = true) .invalidStoredState
    return replay
  | .encounterResolved command outcome commandOrigin => do
    rejectIf (audit.turnNumber ≤ latestCheck.eventSequence ∨
        command.expectedCampaignRevision ≠ audit.turnNumber ∨
        command.command.expectedRevision ≠ replay.state.revision ∨
        command.command.encounterId ≠ replay.state.encounterId ∨
        outcome.resolution.previousRevision ≠ replay.state.revision) .invalidStoredState
    verifyOrigin replay.state command.command.intent commandOrigin
    let cursor ← verifyRolls words seedReference (outcome.resolution.rolls.zip outcome.rollRecords)
      replay.cursor
    let replayed ← replayRecorded replay.state command.command outcome.resolution
    let visible ← publicOutcome outcome
    return { state := replayed.state, latestOutcome := some visible, cursor, encounterStarted := true }
  | .other _ => .ok replay

def replayEvents (words : WordStream) (seedReference : String) (latestCheck : ExplorationCheckOutcomeDto) :
    Replay → List StoredEvent → Except ApplicationError Replay
  | replay, [] => .ok replay
  | replay, audit :: rest => do
    let replay ← replayEvent words seedReference latestCheck replay audit
    replayEvents words seedReference latestCheck replay rest

def projectEncounter (session : StoredDocument SessionDto) (latestCheck : ExplorationCheckOutcomeDto)
    (events : List StoredEvent) (words : WordStream) (seedReference : String)
    (currentHeroProfile : Option EncounterHeroProfile) : Except ApplicationError ProjectedEncounter := do
  rejectIf (latestCheck.campaignSessionId ≠ session.id ∨ latestCheck.characterId ≠ localCharacterId ∨
      latestCheck.actionId ≠ localExplorationActionId ∨
      session.value.lastEventSequence < latestCheck.eventSequence) .invalidStoredState
  let opening := if latestCheck.result.success then .runesUnderstood else .runesMisread
  let state ← (openingState opening (firstEncounterProfile events) currentHeroProfile).mapError
    fun _ => .invalidStoredState
  let replay ← replayEvents words seedReference latestCheck
    { state, latestOutcome := none, cursor := 0, encounterStarted := false } events
  let actions ← (playerLegalActions replay.state).mapError fun _ => .invalidStoredState
  let view : EncounterViewDto :=
    { schemaVersion := encounterCommitSchemaVersion
      campaignSessionId := session.id
      campaignRevision := session.revision
      lastEventSequence := session.value.lastEventSequence
      state := replay.state
      legalActions := actions
      latestOutcome := replay.latestOutcome }
  view.validate.mapError fun _ => .invalidStoredState
  return { view, nextCursor := replay.cursor }

/-! ## Live dice -/

structure DieCursorSpan where
  sides : Nat
  value : Nat
  cursorBefore : Nat
  cursorAfter : Nat
  deriving DecidableEq

/-- The campaign's stream as the engine's dice; every die is noted with the words it spent. -/
structure EncounterRngAdapter where
  cursor : Nat
  spans : List DieCursorSpan
  error : Option RollError

namespace EncounterRngAdapter

def new (cursor : Nat) : EncounterRngAdapter := ⟨cursor, [], none⟩

def rollDie (words : WordStream) (adapter : EncounterRngAdapter) (sides : Nat) : Nat × EncounterRngAdapter :=
  if adapter.error.isSome then (0, adapter)
  else match drawDie words sides adapter.cursor with
    | .ok (value, next) =>
      if maxU16 < value then
        (0, { adapter with
          cursor := next
          error := some (.invalidRollRecord "encounter die value does not fit its durable representation") })
      else (value, { adapter with
        cursor := next
        spans := adapter.spans ++ [⟨sides, value, adapter.cursor, next⟩] })
    | .error error => (0, { adapter with error := some error })

end EncounterRngAdapter

/-- The canonical record of one raw roll, from the words its dice spent. -/
def canonicalRecord (campaignSessionId : String) (eventSequence : Nat) (seedReference : String)
    (raw : RawRollFacts) (spans : List DieCursorSpan) : Except ApplicationError RollRecord := do
  let first ← okOr spans.head? .invalidStoredState
  let last ← okOr spans.getLast? .invalidStoredState
  rejectIf (raw.individualDice ≠ spans.map fun span => ⟨span.sides, span.value⟩) .invalidStoredState
  let expression ← (DiceExpression.parse raw.expression).mapError .roll
  let roll : DiceRoll :=
    { expression
      rolledDice := rolledFaces raw
      keptDice := keptFaces raw
      total := raw.total
      rollMode := canonicalRollMode raw.mode
      cursorBefore := first.cursorBefore
      cursorAfter := last.cursorAfter }
  let metadata : RollMetadata :=
    { rollId := rollId campaignSessionId eventSequence raw.sequence
      purpose := rollPurposeId raw.purpose
      actorId := raw.actorId
      targetId := raw.targetId
      ruleset := ruleset
      seedReference := seedReference }
  (RollRecord.fromRoll roll metadata (modifierComponents raw)).mapError .roll

/-- `canonical_roll_records`: the spans are dealt out to the rolls in order, and none is left over. -/
def canonicalRollRecords (campaignSessionId : String) (eventSequence : Nat) (seedReference : String) :
    List RawRollFacts → List DieCursorSpan → Except ApplicationError (List RollRecord)
  | [], spans => do
    rejectIf (spans ≠ []) .invalidStoredState
    return []
  | raw :: rest, spans => do
    rejectIf (spans.length < raw.individualDice.length) .invalidStoredState
    let record ← canonicalRecord campaignSessionId eventSequence seedReference raw
      (spans.take raw.individualDice.length)
    let records ← canonicalRollRecords campaignSessionId eventSequence seedReference rest
      (spans.drop raw.individualDice.length)
    return record :: records

end ManchesterArcana.Application
