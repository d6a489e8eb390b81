import ManchesterArcana.Core.Roll
import ManchesterArcana.Encounter.Resolve

/-!
# `Application.Outcome` — what the application exchanges about an encounter

A client sends an envelope around an encounter command, or asks for the creature to be advanced; it gets back
a committed outcome: the engine's resolution, the canonical records of its rolls, and the actions that are
open to the player. The view is the same, projected from stored events.
-/

namespace ManchesterArcana.Application

open Effect Encounter Rules

def explorationCheckSchemaVersion : Nat := 1
def encounterCommitSchemaVersion : Nat := 1
def advanceNpcTurnSchemaVersion : Nat := 1

/-- The part of `GameCoreError` that the envelopes raise. -/
inductive DomainError where
  | invalidExplorationCheckCommand (reason : String)
  | invalidExplorationCheckOutcome (reason : String)
  | invalidAbilityCheckResult (reason : String)
  | invalidD20Roll (error : GameCoreError)
  | invalidLocalCampaignView (reason : String)
  | invalidSessionEvent (reason : String)
  deriving DecidableEq

/-! ## Commands -/

/-- One encounter command in its campaign; campaign and encounter have revisions of their own. -/
structure CommitEncounterCommand where
  schemaVersion : Nat
  campaignSessionId : String
  expectedCampaignRevision : Nat
  command : EncounterCommand
  deriving DecidableEq

def CommitEncounterCommand.validate (c : CommitEncounterCommand) : Except DomainError Unit := do
  rejectIf (c.schemaVersion ≠ encounterCommitSchemaVersion)
    (.invalidExplorationCheckCommand "encounter commit schema version is unsupported")
  rejectIf (isValidOpaqueId c.campaignSessionId = false ∨ c.expectedCampaignRevision = 0)
    (.invalidExplorationCheckCommand "encounter campaign identity or revision is invalid")
  c.command.validate.mapError fun _ => .invalidExplorationCheckCommand "nested encounter command is invalid"

/-- The request to let the creature take one action of its policy. -/
structure AdvanceNpcTurnCommand where
  schemaVersion : Nat
  campaignSessionId : String
  expectedCampaignRevision : Nat
  expectedEncounterRevision : Nat
  idempotencyKey : String
  deriving DecidableEq

def AdvanceNpcTurnCommand.validate (c : AdvanceNpcTurnCommand) : Except DomainError Unit := do
  rejectIf (c.schemaVersion ≠ advanceNpcTurnSchemaVersion)
    (.invalidExplorationCheckCommand "NPC advance schema version is unsupported")
  rejectIf (isValidOpaqueId c.campaignSessionId = false ∨ isValidOpaqueId c.idempotencyKey = false ∨
      c.expectedCampaignRevision = 0 ∨ c.expectedEncounterRevision = 0)
    (.invalidExplorationCheckCommand "NPC advance identity and revisions are invalid")

/-! ## The exploration check that opens the encounter -/

structure AbilityCheckResult where
  roll : D20Roll
  ability : Ability
  abilityModifier : Int
  proficiencyModifier : Nat
  situationalModifier : Int
  total : Int
  difficultyClass : Nat
  success : Bool
  deriving DecidableEq

def AbilityCheckResult.validate (r : AbilityCheckResult) : Except DomainError Unit := do
  r.roll.validate.mapError .invalidD20Roll
  rejectIf (¬ (-5 ≤ r.abilityModifier ∧ r.abilityModifier ≤ 10))
    (.invalidAbilityCheckResult "ability modifier is outside the supported ability-score range")
  rejectIf (r.proficiencyModifier ∉ [0, 2, 3, 4, 5, 6, 8, 10, 12])
    (.invalidAbilityCheckResult "proficiency modifier is not attainable under the supported ruleset")
  rejectIf (r.total ≠ r.roll.selected + r.abilityModifier + r.proficiencyModifier + r.situationalModifier)
    (.invalidAbilityCheckResult "total does not match the recorded roll and modifiers")
  rejectIf (r.success ≠ decide (r.total ≥ r.difficultyClass))
    (.invalidAbilityCheckResult "success does not match the recorded total and difficulty class")

structure ExplorationCheckOutcomeDto where
  schemaVersion : Nat
  campaignSessionId : String
  characterId : String
  actionId : String
  resultRevision : Nat
  eventSequence : Nat
  result : AbilityCheckResult
  deriving DecidableEq

def ExplorationCheckOutcomeDto.validate (o : ExplorationCheckOutcomeDto) : Except DomainError Unit := do
  rejectIf (o.schemaVersion ≠ explorationCheckSchemaVersion)
    (.invalidExplorationCheckOutcome "schema version is unsupported")
  rejectIf (isValidOpaqueId o.campaignSessionId = false ∨ isValidOpaqueId o.characterId = false ∨
      isValidOpaqueId o.actionId = false ∨ o.resultRevision = 0 ∨ o.eventSequence = 0)
    (.invalidExplorationCheckOutcome "identifiers, result revision, or event sequence are invalid")
  rejectIf (o.eventSequence + 1 ≠ o.resultRevision ∨ maxU64 < o.eventSequence + 1)
    (.invalidExplorationCheckOutcome "result revision must immediately follow the event sequence")
  o.result.validate

/-! ## Outcomes -/

/-- The public response to one encounter command. -/
structure CommittedEncounterOutcomeDto where
  schemaVersion : Nat
  campaignSessionId : String
  resultCampaignRevision : Nat
  eventSequence : Nat
  resultHeroRevision : Option Nat
  resolution : EncounterResolution
  rollRecords : List RollRecord
  legalActions : List LegalEncounterAction
  deriving DecidableEq

def rollPurposeId : EncounterRollPurpose → String
  | .initiative => "encounter:initiative"
  | .attack => "encounter:attack"
  | .damage => "encounter:damage"
  | .healing => "encounter:healing"
  | .sleepHitPoints => "encounter:sleep-hit-points"
  | .hitDie => "encounter:hit-die"
  | .deathSave => "encounter:death-save"

def canonicalRollMode : EncounterRollMode → RollMode
  | .normal => .normal
  | .advantage => .advantage
  | .disadvantage => .disadvantage

def rollId (campaignSessionId : String) (eventSequence sequence : Nat) : String :=
  "roll:" ++ campaignSessionId ++ ":" ++ toString eventSequence ++ ":" ++ toString sequence

/-- The faces of a raw roll, and the faces it keeps. -/
def rolledFaces (raw : RawRollFacts) : List Nat := raw.individualDice.map (·.value)

def keptFaces (raw : RawRollFacts) : List Nat :=
  raw.keptDieIndices.map fun i => ((raw.individualDice[i]?).map (·.value)).getD 0

/-- The modifiers of a raw roll as a record lists them, before they are sorted. -/
def modifierComponents (raw : RawRollFacts) : List ModifierComponent :=
  raw.modifiers.map fun m => ⟨m.sourceId, m.value.toInt⟩

def invalidEncounterOutcome (reason : String) : DomainError := .invalidLocalCampaignView reason

/-- A raw roll and its record say the same. -/
def validateRollRecordPair (campaignSessionId : String) (eventSequence : Nat) (raw : RawRollFacts)
    (record : RollRecord) : Except DomainError Unit := do
  let expectedExpression ← (DiceExpression.parse raw.expression).mapError
    fun _ => invalidEncounterOutcome "raw roll expression is not canonical"
  rejectIf (record.rollId ≠ rollId campaignSessionId eventSequence raw.sequence ∨
      record.expression ≠ expectedExpression ∨ record.rolledDice ≠ rolledFaces raw ∨
      record.keptDice ≠ keptFaces raw ∨
      record.modifierComponents ≠ (modifierComponents raw).mergeSort (fun a b => !decide (b.name < a.name)) ∨
      record.total ≠ raw.total ∨ record.purpose ≠ rollPurposeId raw.purpose ∨
      record.actorId ≠ raw.actorId ∨ record.targetId ≠ raw.targetId ∨
      record.rollMode ≠ canonicalRollMode raw.mode ∨ record.ruleset ≠ ruleset)
    (invalidEncounterOutcome "canonical roll record does not match raw resolution facts")

/-- What the loop over the rolls carries: the cursor behind the last record, and its seed reference. -/
abbrev RollChain := Option (Nat × String)

def validateRollPairs (campaignSessionId : String) (eventSequence : Nat) :
    RollChain → List (RawRollFacts × RollRecord) → Except DomainError Unit
  | _, [] => .ok ()
  | chain, (raw, record) :: rest => do
    record.validate.mapError fun _ => invalidEncounterOutcome "canonical roll record is invalid"
    validateRollRecordPair campaignSessionId eventSequence raw record
    rejectIf (∃ previous ∈ chain, previous.1 ≠ record.cursorBefore)
      (invalidEncounterOutcome "canonical roll cursor ranges are not contiguous")
    rejectIf (∃ previous ∈ chain, previous.2 ≠ record.seedReference)
      (invalidEncounterOutcome "canonical rolls do not share one seed reference")
    validateRollPairs campaignSessionId eventSequence (some (record.cursorAfter, record.seedReference)) rest

namespace CommittedEncounterOutcomeDto

/-- The hero revision is there exactly when a created hero is bound to a live encounter. -/
def heroRevisionFits (o : CommittedEncounterOutcomeDto) : Bool :=
  let version := o.resolution.state.schemaVersion
  if version = encounterSchemaVersion then
    o.resolution.state.hero.sourceCharacterId.isSome == o.resultHeroRevision.isSome
  else (version == legacyEncounterSchemaVersion || version == liveV2EncounterSchemaVersion) &&
    o.resultHeroRevision.isNone

def validate (o : CommittedEncounterOutcomeDto) : Except DomainError Unit := do
  rejectIf (o.schemaVersion ≠ encounterCommitSchemaVersion ∨ isValidOpaqueId o.campaignSessionId = false ∨
      o.resultCampaignRevision = 0 ∨ o.eventSequence = 0 ∨
      o.eventSequence + 1 ≠ o.resultCampaignRevision ∨ maxU64 < o.eventSequence + 1 ∨
      o.resolution.encounterId ≠ sootWightEncounterId)
    (invalidEncounterOutcome
      "encounter outcome schema, identity, campaign revision, or sequence is invalid")
  o.resolution.validate.mapError fun _ => invalidEncounterOutcome "encounter resolution is invalid"
  rejectIf (o.heroRevisionFits = false)
    (invalidEncounterOutcome
      "authoritative hero revision does not match the encounter schema and hero source")
  rejectIf (o.rollRecords.length ≠ o.resolution.rolls.length)
    (invalidEncounterOutcome "canonical roll count does not match raw resolution rolls")
  validateRollPairs o.campaignSessionId o.eventSequence none (o.resolution.rolls.zip o.rollRecords)
  let expectedPlayerLegal ← (playerLegalActions o.resolution.state).mapError
    fun _ => invalidEncounterOutcome "legal encounter actions cannot be derived"
  let legacyLegal ← (Encounter.legalActions o.resolution.state).mapError
    fun _ => invalidEncounterOutcome "legacy legal encounter actions cannot be derived"
  rejectIf (o.legalActions ≠ expectedPlayerLegal ∧ o.legalActions ≠ legacyLegal)
    (invalidEncounterOutcome "legal actions do not match the committed encounter state")

/-- The boundary between player and controller; `validate` alone still accepts outcomes from before it. -/
def validatePlayerActionBoundary (o : CommittedEncounterOutcomeDto) : Except DomainError Unit := do
  o.validate
  let expected ← (playerLegalActions o.resolution.state).mapError
    fun _ => invalidEncounterOutcome "player legal actions cannot be derived"
  rejectIf (o.legalActions ≠ expected)
    (invalidEncounterOutcome "public legal actions expose a non-player actor")

end CommittedEncounterOutcomeDto

/-! ## The view -/

structure EncounterViewDto where
  schemaVersion : Nat
  campaignSessionId : String
  campaignRevision : Nat
  lastEventSequence : Nat
  state : EncounterState
  legalActions : List LegalEncounterAction
  latestOutcome : Option CommittedEncounterOutcomeDto

namespace EncounterViewDto

/-- The latest outcome belongs to the view; without one, the encounter has not begun. -/
def validateLatest (v : EncounterViewDto) : Except DomainError Unit :=
  match v.latestOutcome with
  | some outcome => do
    outcome.validate
    rejectIf (outcome.campaignSessionId ≠ v.campaignSessionId ∨
        v.campaignRevision < outcome.resultCampaignRevision ∨
        v.lastEventSequence < outcome.eventSequence ∨ outcome.resolution.state ≠ v.state ∨
        outcome.legalActions ≠ v.legalActions)
      (invalidEncounterOutcome "latest encounter outcome does not belong to this view")
  | none =>
    rejectIf (¬ (v.state.status = .ready ∧ v.state.revision = 1))
      (invalidEncounterOutcome "a progressed encounter view requires its latest committed outcome")

def validate (v : EncounterViewDto) : Except DomainError Unit := do
  rejectIf (v.schemaVersion ≠ encounterCommitSchemaVersion ∨ isValidOpaqueId v.campaignSessionId = false ∨
      v.campaignRevision = 0 ∨ v.lastEventSequence + 1 ≠ v.campaignRevision ∨
      maxU64 < v.lastEventSequence + 1)
    (invalidEncounterOutcome "encounter view schema, identity, or campaign revision is invalid")
  v.state.validate.mapError fun _ => invalidEncounterOutcome "encounter view state is invalid"
  let expectedLegal ← (playerLegalActions v.state).mapError
    fun _ => invalidEncounterOutcome "encounter view legal actions cannot be derived"
  rejectIf (v.legalActions ≠ expectedLegal)
    (invalidEncounterOutcome "encounter view legal actions do not match its state")
  v.validateLatest

end EncounterViewDto

end ManchesterArcana.Application
