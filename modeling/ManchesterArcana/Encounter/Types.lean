import ManchesterArcana.Rules.Spells

/-!
# `Encounter.Types` — the data model of the one authored encounter

The Canal Warden meets the Soot Wight at the viaduct. This module holds the fixed content of that encounter
(identifiers, positions, attacks), the state of an encounter, the commands that drive it, and the facts and
raw rolls that a resolution records. Unsigned machine integers are natural numbers, with the bound stated
where the code checks it; signed ones that the content supplies keep their width (`Int8`, `Int16`).
-/

namespace ManchesterArcana.Encounter

open Rules

/-! ## Fixed content -/

def legacyEncounterSchemaVersion : Nat := 1
def liveV2EncounterSchemaVersion : Nat := 2
def encounterSchemaVersion : Nat := 3

def encounterRulesetId : String := "srd-5.1-cc"
def legacyEncounterContentPackId : String := "manchester-arcana-content:v1"
def encounterContentPackId : String := "manchester-arcana-content:v2"
def sootWightEncounterId : String := "manchester-arcana-content:v1:encounter:soot-wight-at-viaduct"
def canalWardenId : String := "manchester-arcana-content:v1:hero:canal-warden"
def sootWightId : String := "manchester-arcana-content:v1:creature:soot-wight"
def canalWardenAttackId : String := "srd-5.1-cc:attack:canal-warden-longsword"
def sootWightAttackId : String := "manchester-arcana-content:v1:attack:soot-claw"
def sootWightPolicyId : String := "manchester-arcana-content:v1:policy:soot-wight-closed-v1"
def releaseSluiceActionId : String := "manchester-arcana-content:v1:context:release-cleansing-sluice"
def secondWindActionId : String := "srd-5.1-cc:feature:second-wind"
def defeatSootWightObjectiveId : String := "manchester-arcana-content:v1:objective:defeat-soot-wight"
def releaseSluiceObjectiveId : String := "manchester-arcana-content:v1:objective:release-cleansing-sluice"
def explorationDestinationId : String := "manchester-arcana-content:v1:scene:viaduct-aftermath"
def viaductRuneObjectId : String := "manchester-arcana-content:v2:object:viaduct-rune-stone"
def sluiceLeverObjectId : String := "manchester-arcana-content:v2:object:cleansing-sluice-lever"
def mageHandId : String := "manchester-arcana-content:v2:effect:mage-hand"
def postEncounterRestBoundaryId : String := "manchester-arcana-content:v2:boundary:viaduct-aftermath-safe"
def hitDieActionId : String := "srd-5.1-cc:rest:spend-hit-die"

def battlefieldMinFeet : Nat := 0
def battlefieldMaxFeet : Nat := 60
def sluicePositionFeet : Nat := 10
def contextRangeFeet : Nat := 5
def heroMaximumHitPoints : Nat := 12
def creatureMaximumHitPoints : Nat := 9
def shortRestMinutes : Nat := 60
def longRestMinutes : Nat := 480

/-- Largest values of the wider counters. -/
def maxU32 : Nat := 4294967295
def maxU64 : Nat := 18446744073709551615

/-! ## Errors -/

inductive EncounterError where
  | invalidCommand (reason : String)
  | invalidState (reason : String)
  | wrongEncounter (expected actual : String)
  | revisionConflict (expected actual : Nat)
  | revisionOverflow
  | illegalIntent (reason : String)
  | playerControlUnavailable (currentActorId : String)
  | deterministicPolicyUnavailable (reason : String)
  | attackUnavailable (actorId attackId : String)
  | invalidTarget (actorId targetId : String)
  | targetOutOfRange (distanceFeet rangeFeet : Nat)
  | invalidDestination (destinationFeet : Nat)
  | insufficientMovement (requestedFeet remainingFeet : Nat)
  | invalidRoll (sides value : Nat)
  | roundOverflow
  | invalidCorrection (reason : String)
  deriving DecidableEq

abbrev EncounterResult (α : Type) := Except EncounterError α

/-! ## Commands -/

/-- What a player or a system asks for. Actor, dice, modifiers and damage are always derived from the state. -/
inductive EncounterIntent where
  | startEncounter
  | move (destinationFeet : Nat)
  | attack (attackId targetId : String)
  | contextAction (actionId : String)
  | castSpell (spell : SpellId) (targetId : String)
  | castLight (objectId : String)
  | castMageHand (anchorObjectId : String)
  | controlMageHand (objectId : String)
  | dismissMageHand
  | castSleep
  | castShield
  | declineReaction
  | secondWind
  | actionSurge
  | beginShortRest
  | spendHitDie
  | useArcaneRecovery
  | finishShortRest
  | takeLongRest
  | endTurn
  | rollDeathSave
  deriving DecidableEq

structure EncounterCommand where
  schemaVersion : Nat
  encounterId : String
  expectedRevision : Nat
  idempotencyKey : String
  intent : EncounterIntent
  deriving DecidableEq

inductive LegalEncounterAction where
  | startEncounter
  | move (minimumDestinationFeet maximumDestinationFeet movementRemainingFeet : Nat)
  | attack (attackId targetId : String) (rangeFeet : Nat)
  | contextAction (actionId : String)
  | castSpell (spell : SpellId) (targetId : String) (rangeFeet : Nat)
  | castLight (objectId : String)
  | castMageHand (anchorObjectId : String)
  | controlMageHand (objectId : String)
  | dismissMageHand
  | castSleep
  | castShield
  | declineReaction
  | secondWind
  | actionSurge
  | beginShortRest
  | spendHitDie
  | useArcaneRecovery
  | finishShortRest
  | takeLongRest
  | endTurn
  | rollDeathSave
  deriving DecidableEq

/-! ## Combatants -/

inductive OpeningConsequence where
  | runesUnderstood
  | runesMisread
  deriving DecidableEq

inductive CombatantStatusEffect where
  | runeWard
  | sootVeil
  | magicallyAsleep
  deriving DecidableEq

inductive CombatantKind where
  | hero
  | creature
  deriving DecidableEq

inductive LifeStatus where
  | conscious
  | unconscious
  | stable
  | dead
  deriving DecidableEq

structure DeathSaves where
  successes : Nat := 0
  failures : Nat := 0
  deriving DecidableEq

structure HitPoints where
  current : Nat
  maximum : Nat
  temporary : Nat
  deathSaves : DeathSaves
  deriving DecidableEq

/-- Damage types of the encounter; the creature's necrotic claw is not in the hero vocabulary. -/
inductive DamageType where
  | bludgeoning
  | piercing
  | slashing
  | necrotic
  | fire
  | force
  deriving DecidableEq

structure RollModifierFact where
  sourceId : String
  value : Int16
  deriving DecidableEq

structure EncounterAttack where
  attackId : String
  rangeFeet : Nat
  attackModifiers : List RollModifierFact
  damageDieSides : Nat
  damageModifier : RollModifierFact
  damageType : DamageType
  deriving DecidableEq

structure CombatantState where
  id : String
  name : String
  kind : CombatantKind
  sourceCharacterId : Option String
  armorClass : Nat
  speedFeet : Nat
  initiativeModifier : Int8
  positionFeet : Nat
  hitPoints : HitPoints
  lifeStatus : LifeStatus
  statusEffects : List CombatantStatusEffect
  attacks : List EncounterAttack
  deriving DecidableEq

/-- The authored longsword of the fixed Canal Warden. -/
def heroAttack : EncounterAttack where
  attackId := canalWardenAttackId
  rangeFeet := 5
  attackModifiers := [⟨"srd-5.1-cc:modifier:strength", 3⟩, ⟨"srd-5.1-cc:modifier:proficiency", 2⟩]
  damageDieSides := 8
  damageModifier := ⟨"srd-5.1-cc:modifier:strength-damage", 3⟩
  damageType := .slashing

/-- The authored claw of the Soot Wight. -/
def creatureAttack : EncounterAttack where
  attackId := sootWightAttackId
  rangeFeet := 5
  attackModifiers :=
    [ ⟨"manchester-arcana-content:v1:modifier:soot-wight-dexterity", 1⟩
    , ⟨"srd-5.1-cc:modifier:proficiency", 2⟩ ]
  damageDieSides := 6
  damageModifier := ⟨"manchester-arcana-content:v1:modifier:soot-wight-damage", 1⟩
  damageType := .necrotic

structure EncounterHeroRulesProfile where
  runtimeResources : RuntimeResources
  spellcasting : Option SpellcastingState
  constitutionModifier : Option Int8
  deriving DecidableEq

/-- Combat and rules snapshot of a created hero, taken when the encounter begins. -/
structure EncounterHeroProfile where
  sourceCharacterId : String
  name : String
  armorClass : Nat
  speedFeet : Nat
  initiativeModifier : Int8
  currentHitPoints : Nat
  maximumHitPoints : Nat
  attacks : List EncounterAttack
  rules : Option EncounterHeroRulesProfile
  deriving DecidableEq

/-! ## State -/

structure EncounterMap where
  minimumPositionFeet : Nat
  maximumPositionFeet : Nat
  sluicePositionFeet : Nat
  contextRangeFeet : Nat
  deriving DecidableEq

structure TurnResources where
  actionAvailable : Bool
  movementRemainingFeet : Nat
  bonusActionAvailable : Bool
  reactionAvailable : Bool
  objectInteractionAvailable : Bool
  deriving DecidableEq

structure InitiativeEntry where
  participantId : String
  naturalRoll : Nat
  modifier : Int8
  total : Int
  tieBreakRank : Nat
  deriving DecidableEq

inductive InitiativeTieBreaker where
  | higherModifierThenStableId
  | stableId
  deriving DecidableEq

structure InitiativeTie where
  total : Int
  participantIds : List String
  resolvedBy : InitiativeTieBreaker
  deriving DecidableEq

structure InitiativeState where
  entries : List InitiativeEntry
  order : List String
  ties : List InitiativeTie
  deriving DecidableEq

inductive ObjectiveStatus where
  | pending
  | completed
  | failed
  deriving DecidableEq

structure EncounterObjective where
  objectiveId : String
  status : ObjectiveStatus
  deriving DecidableEq

structure EncounterObjectives where
  primary : EncounterObjective
  contextual : EncounterObjective
  deriving DecidableEq

inductive EncounterStatus where
  | ready
  | active
  | victory
  | defeat
  deriving DecidableEq

inductive EncounterRewardTier where
  | minor
  | major
  deriving DecidableEq

inductive RewardIneligibilityReason where
  | encounterDefeat
  deriving DecidableEq

inductive RewardEligibility where
  | pending
  | eligible (tier : EncounterRewardTier)
  | ineligible (reason : RewardIneligibilityReason)
  deriving DecidableEq

inductive EncounterOutcome where
  | victory
  | defeat
  deriving DecidableEq

inductive DefeatReason where
  | heroUnconscious
  | heroStable
  | heroDead
  deriving DecidableEq

structure ExplorationTransition where
  destinationId : String
  outcome : EncounterOutcome
  defeatReason : Option DefeatReason
  heroCurrentHitPoints : Nat
  heroLifeStatus : LifeStatus
  storyRecoveryApplied : Bool
  deriving DecidableEq

structure EncounterObjectState where
  objectId : String
  positionFeet : Nat
  maximumDimensionFeet : Nat
  weightPounds : Nat
  isMagicItem : Bool
  lightRemainingRounds : Option Nat
  deriving DecidableEq

structure EncounterSleepState where
  targetId : String
  remainingRounds : Nat
  deriving DecidableEq

structure PendingAttackReaction where
  actorId : String
  targetId : String
  attackId : String
  naturalRoll : Nat
  attackTotal : Int
  armorClass : Nat
  critical : Bool
  deriving DecidableEq

inductive ShieldExpiry where
  | startOfCasterTurn
  deriving DecidableEq

structure ShieldWardState where
  casterId : String
  armorClassBonus : Nat
  immuneToMagicMissile : Bool
  expiry : ShieldExpiry
  deriving DecidableEq

structure ShortRestState where
  boundaryId : String
  startedAtCampaignMinute : Nat
  completesAtCampaignMinute : Nat
  hitDiceSpent : Nat
  arcaneRecoveryUsed : Bool
  deriving DecidableEq

/-- Runtime state of the live schema. The campaign time is abstract, advanced only by fixed policies. -/
structure EncounterLiveQ04State where
  objects : List EncounterObjectState
  mageHand : Option MageHandState
  mageHandPositionFeet : Option Nat
  sleep : Option EncounterSleepState
  pendingAttackReaction : Option PendingAttackReaction
  shieldWard : Option ShieldWardState
  heroReactionAvailable : Bool
  campaignTimeMinutes : Nat
  activeShortRest : Option ShortRestState
  lastLongRestCompletedAtCampaignMinute : Option Nat
  deriving DecidableEq

structure EncounterState where
  schemaVersion : Nat
  encounterId : String
  rulesetId : String
  contentPackId : String
  revision : Nat
  lethalityPolicy : LethalityPolicy
  openingConsequence : OpeningConsequence
  map : EncounterMap
  hero : CombatantState
  heroRules : Option EncounterHeroRulesProfile
  creature : CombatantState
  initiative : Option InitiativeState
  round : Nat
  currentActorIndex : Option Nat
  currentActorId : Option String
  turnResources : Option TurnResources
  objectives : EncounterObjectives
  status : EncounterStatus
  rewardEligibility : RewardEligibility
  transition : Option ExplorationTransition
  liveQ04 : Option EncounterLiveQ04State
  deriving DecidableEq

/-! ## Rolls -/

inductive EncounterRollMode where
  | normal
  | advantage
  | disadvantage
  deriving DecidableEq

inductive EncounterRollPurpose where
  | initiative
  | attack
  | damage
  | healing
  | sleepHitPoints
  | hitDie
  | deathSave
  deriving DecidableEq

structure RawDieFact where
  sides : Nat
  value : Nat
  deriving DecidableEq

inductive RollComparisonKind where
  | armorClass
  | deathSaveDifficultyClass
  deriving DecidableEq

structure RollComparison where
  kind : RollComparisonKind
  value : Int
  deriving DecidableEq

inductive AttackOutcome where
  | automaticMiss
  | miss
  | hit
  | criticalHit
  deriving DecidableEq

def AttackOutcome.isHit : AttackOutcome → Bool
  | .hit | .criticalHit => true
  | .automaticMiss | .miss => false

def AttackOutcome.isCritical : AttackOutcome → Bool
  | .criticalHit => true
  | _ => false

inductive RawRollOutcome where
  | total
  | automaticMiss
  | miss
  | hit
  | criticalHit
  | success
  | failure
  | naturalOneFailure
  | naturalTwentyRecovery
  deriving DecidableEq

/-- A roll with every die, kept index, modifier, comparison and result explicit. -/
structure RawRollFacts where
  sequence : Nat
  purpose : EncounterRollPurpose
  actorId : String
  targetId : Option String
  actionId : Option String
  expression : String
  mode : EncounterRollMode
  individualDice : List RawDieFact
  keptDieIndices : List Nat
  modifiers : List RollModifierFact
  naturalD20 : Option Nat
  total : Int
  comparison : Option RollComparison
  outcome : RawRollOutcome
  deriving DecidableEq

/-! ## Facts and resolutions -/

inductive SleepEndReason where
  | damaged
  | durationExpired
  deriving DecidableEq

inductive EncounterFact where
  | encounterStarted (round : Nat) (initiativeOrder : List String) (currentActorId : String)
  | moved (actorId : String) (fromFeet toFeet movementSpentFeet movementRemainingFeet : Nat)
  | attackResolved (actorId targetId attackId : String) (distanceFeet rangeFeet armorClass : Nat)
      (attackTotal : Int) (outcome : AttackOutcome)
  | damageApplied (actorId targetId attackId : String) (damageType : DamageType) (critical : Bool)
      (amount temporaryHitPointsBefore temporaryHitPointsAbsorbed temporaryHitPointsAfter
        currentHitPointsBefore currentHitPointsAfter : Nat)
  | spellCastResolved (actorId targetId : String) (spell : SpellId)
      (levelOneSpellSlotsBefore levelOneSpellSlotsAfter : Option Nat) (damageApplied : Nat)
  | lightApplied (actorId objectId : String) (durationRounds : Nat)
  | lightExpired (objectId : String)
  | mageHandCreated (actorId handId anchorObjectId : String)
      (distanceFromCasterFeet durationRounds : Nat)
  | mageHandControlled (actorId handId objectId : String) (operation : MageHandOperation)
      (resultingDistanceFromCasterFeet : Nat)
  | mageHandDismissed (actorId handId : String)
  | mageHandExpired (handId : String)
  | sleepResolved (actorId : String) (hitPointPool : Nat)
      (orderedTargetIds affectedTargetIds : List String) (durationRounds : Nat)
  | sleepEnded (targetId : String) (reason : SleepEndReason)
  | attackReactionOpened (actorId targetId attackId : String) (naturalRoll : Nat) (attackTotal : Int)
      (armorClass : Nat)
  | shieldResolved (actorId triggeringAttackId : String) (triggeringNaturalRoll : Nat)
      (triggeringAttackTotal : Int) (armorClassBefore armorClassWithShield : Nat)
      (negatedTrigger : Bool) (levelOneSpellSlotsBefore levelOneSpellSlotsAfter : Nat)
  | attackReactionDeclined (actorId triggeringAttackId : String)
  | classFeatureResolved (actorId : String) (feature : FeatureId) (resource : ResourceKind)
      (resourceBefore resourceAfter : Nat) (actionAvailableAfter bonusActionAvailableAfter : Bool)
  | healingApplied (actorId : String) (feature : FeatureId) (requestedHealing effectiveHealing
      currentHitPointsBefore currentHitPointsAfter : Nat)
  | restStarted (actorId : String) (kind : RestKind) (boundaryId : String)
      (startedAtCampaignMinute completesAtCampaignMinute : Nat)
  | hitDieSpent (actorId : String) (hitDie : ResourceKind) (roll : Nat) (constitutionModifier : Int8)
      (healingTotal effectiveHealing hitDiceBefore hitDiceAfter : Nat)
  | arcaneRecoveryApplied (actorId : String)
      (spellSlotsBefore spellSlotsAfter resourceBefore resourceAfter : Nat)
  | restCompleted (actorId : String) (kind : RestKind) (boundaryId : String)
      (completedAtCampaignMinute hitPointsRecovered hitDiceRecovered spellSlotsRecovered : Nat)
  | lifeStatusChanged (participantId : String) (before after : LifeStatus)
      (deathSaveSuccesses deathSaveFailures : Nat)
  | contextActionResolved (actorId actionId : String) (removedTemporaryHitPoints : Nat)
      (objectiveId : String)
  | deathSaveResolved (actorId : String) (naturalRoll successesBefore successesAfter failuresBefore
      failuresAfter : Nat) (lifeStatusAfter : LifeStatus)
  | turnEnded (actorId nextActorId : String) (round : Nat)
  | encounterCompleted (outcome : EncounterOutcome) (defeatReason : Option DefeatReason)
      (rewardEligible storyRecoveryApplied : Bool)
  deriving DecidableEq

structure DeterministicNarration where
  narrationId : String
  authoredText : String
  fallbackText : String
  deriving DecidableEq

structure EncounterResolution where
  schemaVersion : Nat
  encounterId : String
  previousRevision : Nat
  resultRevision : Nat
  state : EncounterState
  rolls : List RawRollFacts
  facts : List EncounterFact
  narration : DeterministicNarration
  deriving DecidableEq

end ManchesterArcana.Encounter
