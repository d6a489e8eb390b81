import ManchesterArcana.Rules.MageHand
import ManchesterArcana.Rules.Resources

/-!
# `Rules.Spells` — damage dice and the six supported spells

A spell is validated, paid for (an action or a reaction, and a slot for the level-one spells), rolled and
turned into effects; nothing is written back unless every step succeeds. The effects are facts for the
caller to apply.
-/

namespace ManchesterArcana.Rules

open Effect

/-! ## Damage dice -/

structure DamageDiceResolution where
  sides : Nat
  dice : List Nat
  constant : Int8
  critical : Bool
  total : Nat
  deriving DecidableEq

/-- Ask for `n` dice of one size, in order. -/
def rollBytes (sides : Nat) : Nat → Rolling RulesMatrixError (List Nat)
  | 0 => pure []
  | n + 1 => do
    let value ← rollByte sides
    let rest ← rollBytes sides n
    return value :: rest

def resolveDamageDice (count sides : Nat) (constant : Int8) (critical : Bool) :
    Rolling RulesMatrixError DamageDiceResolution := do
  Prog.reject (¬ (1 ≤ count ∧ count ≤ 20) ∨ ¬ (2 ≤ sides ∧ sides ≤ 100))
    (.invalidIntent "damage dice are outside the bounded MVP grammar")
  let rolledCount := count * (if critical then 2 else 1)
  Prog.reject (rolledCount > maxU8) .arithmeticOverflow
  let dice ← rollBytes sides rolledCount
  let total := ((dice.sum : Int) + constant.toInt).toNat
  Prog.reject (total > maxU16) .arithmeticOverflow
  return { sides, dice, constant, critical, total }

/-! ## Casters, targets and intents -/

inductive Cover where
  | none
  | half
  | threeQuarters
  deriving DecidableEq

def Cover.armorClassBonus : Cover → Nat
  | .none => 0
  | .half => 2
  | .threeQuarters => 5

inductive D20TestOutcome where
  | success
  | failure
  | criticalHit
  | automaticMiss
  deriving DecidableEq

def D20TestOutcome.succeeds : D20TestOutcome → Bool
  | .success | .criticalHit => true
  | .failure | .automaticMiss => false

structure SpellcastingState where
  schemaVersion : Nat
  casterId : String
  spellAttackBonus : Int8
  spellSaveDc : Nat
  cantrips : List SpellId
  prepared : List SpellId
  deriving DecidableEq

namespace SpellcastingState

/-- Adjacent entries strictly increase, in the declaration order of the spells. -/
def sortedUnique : List SpellId → Bool
  | a :: b :: rest => decide (a.ctorIdx < b.ctorIdx) && sortedUnique (b :: rest)
  | _ => true

def validate (s : SpellcastingState) : RulesMatrixResult Unit := do
  rejectIf (s.schemaVersion ≠ rulesMatrixSchemaVersion)
    (.invalidState "spellcasting state schema version is unsupported")
  requireId s.casterId "caster ID is invalid"
  rejectIf (¬ (-3 ≤ s.spellAttackBonus.toInt ∧ s.spellAttackBonus.toInt ≤ 12) ∨
      ¬ (5 ≤ s.spellSaveDc ∧ s.spellSaveDc ≤ 30) ∨ s.cantrips ≠ SpellId.cantrips ∨ s.prepared = [] ∨
      s.prepared.length > SpellId.levelOne.length ∨ sortedUnique s.prepared = false ∨
      ∃ spell ∈ s.prepared, spell ∉ SpellId.levelOne)
    (.invalidState "spellcasting attack, DC, cantrips, or prepared list is invalid")

def canCast (s : SpellcastingState) (spell : SpellId) : Bool :=
  if spell.level = 0 then spell ∈ s.cantrips else spell ∈ s.prepared

structure Valid (s : SpellcastingState) : Prop where
  schema : s.schemaVersion = rulesMatrixSchemaVersion
  casterId : isValidOpaqueId s.casterId = true
  attackBonus : -3 ≤ s.spellAttackBonus.toInt ∧ s.spellAttackBonus.toInt ≤ 12
  saveDc : 5 ≤ s.spellSaveDc ∧ s.spellSaveDc ≤ 30
  cantrips : s.cantrips = SpellId.cantrips
  prepared_ne : s.prepared ≠ []
  prepared_le : s.prepared.length ≤ SpellId.levelOne.length
  prepared_sorted : sortedUnique s.prepared = true
  prepared_sub : ∀ spell ∈ s.prepared, spell ∈ SpellId.levelOne

theorem validate_eq_ok {s : SpellcastingState} : s.validate = .ok () ↔ s.Valid := by
  simp only [validate, requireId, seq_eq_ok, rejectIf_eq_ok, not_or, not_not,
    Bool.not_eq_false, Nat.not_lt, ne_eq]
  constructor
  · rintro ⟨hs, hi, ha, hd, hc, hn, hl, ho, hp⟩
    refine ⟨hs, hi, ha, hd, hc, hn, hl, ho, fun spell hmem => ?_⟩
    by_contra hout
    exact hp ⟨spell, hmem, hout⟩
  · intro hv
    refine ⟨hv.schema, hv.casterId, hv.attackBonus, hv.saveDc, hv.cantrips, hv.prepared_ne,
      hv.prepared_le, hv.prepared_sorted, ?_⟩
    rintro ⟨spell, hmem, hout⟩
    exact hout (hv.prepared_sub spell hmem)

end SpellcastingState

structure SpellComponentAccess where
  verbalAvailable : Bool
  somaticAvailable : Bool
  materialFocusAvailable : Bool
  deriving DecidableEq

namespace SpellComponentAccess

def available : SpellComponentAccess := ⟨true, true, true⟩

def validateFor (c : SpellComponentAccess) (spell : SpellId) : RulesMatrixResult Unit :=
  let needsSomatic := spell ≠ .light
  let needsMaterial := spell = .light ∨ spell = .sleep
  rejectIf (c.verbalAvailable = false ∨ (needsSomatic ∧ c.somaticAvailable = false) ∨
      (needsMaterial ∧ c.materialFocusAvailable = false))
    (.invalidIntent "required verbal, somatic, or material spell component is unavailable")

@[simp] theorem available_validateFor (spell : SpellId) : available.validateFor spell = .ok () := by
  cases spell <;> rfl

end SpellComponentAccess

inductive FireBoltTargetKind where
  | creature
  | unattendedFlammableObject
  deriving DecidableEq

structure FireBoltTarget where
  targetId : String
  distanceFeet : Nat
  visible : Bool
  armorClass : Nat
  cover : Cover
  threateningHostileWithinFiveFeet : Bool
  damageProfile : DamageProfile
  targetKind : FireBoltTargetKind
  conditions : ConditionSet
  deriving DecidableEq

structure LightCarrierSave where
  carrierId : String
  dexteritySaveModifier : Int8
  rollContext : RollContext
  deriving DecidableEq

structure LightTarget where
  objectId : String
  distanceFeet : Nat
  objectMaximumDimensionFeet : Nat
  hostileCarrier : Option LightCarrierSave
  deriving DecidableEq

structure MageHandTarget where
  handId : String
  distanceFeet : Nat
  deriving DecidableEq

structure MagicMissileTarget where
  targetId : String
  distanceFeet : Nat
  visible : Bool
  shielded : Bool
  damageProfile : DamageProfile
  deriving DecidableEq

inductive ShieldTrigger where
  | attackHit (naturalRoll : Nat) (attackTotal : Int) (armorClass : Nat)
  | magicMissile
  deriving DecidableEq

structure SleepCandidate where
  targetId : String
  distanceFromPointFeet : Nat
  currentHitPoints : Nat
  alreadyUnconscious : Bool
  immuneToMagicalSleep : Bool
  deriving DecidableEq

inductive SupportedSpellIntent where
  | fireBolt (target : FireBoltTarget) (rollContext : RollContext)
  | light (target : LightTarget)
  | mageHand (target : MageHandTarget)
  | magicMissile (first second third : MagicMissileTarget)
  | shield (trigger : ShieldTrigger)
  | sleep (centerDistanceFeet : Nat) (candidates : List SleepCandidate)
  deriving DecidableEq

namespace SupportedSpellIntent

def spell : SupportedSpellIntent → SpellId
  | fireBolt .. => .fireBolt
  | light _ => .light
  | mageHand _ => .mageHand
  | magicMissile .. => .magicMissile
  | shield _ => .shield
  | sleep .. => .sleep

def validateDart (target : MagicMissileTarget) : RulesMatrixResult Unit := do
  requireId target.targetId "magic missile target ID is invalid"
  target.damageProfile.validate
  rejectIf (target.visible = false ∨ target.distanceFeet > 120 ∨ ¬ 5 ∣ target.distanceFeet)
    (.invalidIntent "magic missile requires visible in-range targets")

/-- Validate sleep candidates in order, given the ids of the ones before them. -/
def validateCandidates : List String → List SleepCandidate → RulesMatrixResult Unit
  | _, [] => .ok ()
  | ids, target :: rest => do
    requireId target.targetId "sleep target ID is invalid"
    rejectIf (target.targetId ∈ ids ∨ target.distanceFromPointFeet > 20 ∨
        ¬ 5 ∣ target.distanceFromPointFeet ∨ target.currentHitPoints = 0)
      (.invalidIntent "sleep candidates must be unique, living, and in the area")
    validateCandidates (target.targetId :: ids) rest

def validate : SupportedSpellIntent → RulesMatrixResult Unit
  | fireBolt target _ => do
    requireId target.targetId "fire bolt target ID is invalid"
    target.damageProfile.validate
    target.conditions.validate
    rejectIf (target.visible = false ∨ target.distanceFeet > 120 ∨ ¬ 5 ∣ target.distanceFeet ∨
        target.armorClass = 0)
      (.invalidIntent "fire bolt requires a visible in-range target with AC")
  | light target => do
    requireId target.objectId "light object ID is invalid"
    rejectIf (target.distanceFeet > 5 ∨ ¬ 5 ∣ target.distanceFeet ∨
        target.objectMaximumDimensionFeet = 0 ∨ target.objectMaximumDimensionFeet > 10)
      (.invalidIntent "light requires a touched object no larger than ten feet")
    match target.hostileCarrier with
    | some carrier =>
      requireId carrier.carrierId "light carrier ID is invalid"
      rejectIf (¬ (-5 ≤ carrier.dexteritySaveModifier.toInt ∧ carrier.dexteritySaveModifier.toInt ≤ 15))
        (.invalidIntent "light carrier save modifier is invalid")
    | none => return ()
  | mageHand target => do
    requireId target.handId "mage hand ID is invalid"
    rejectIf (target.distanceFeet > 30 ∨ ¬ 5 ∣ target.distanceFeet)
      (.invalidIntent "mage hand creation point is out of range")
  | magicMissile first second third => checkAll validateDart [first, second, third]
  | shield (.attackHit naturalRoll attackTotal armorClass) =>
    rejectIf (¬ (1 ≤ armorClass ∧ armorClass ≤ 30) ∨ ¬ InRange 20 naturalRoll ∨ naturalRoll = 1 ∨
        (naturalRoll ≠ 20 ∧ attackTotal < armorClass))
      (.invalidIntent "shield attack trigger must describe an actual hit")
  | shield .magicMissile => return ()
  | sleep centerDistanceFeet candidates => do
    rejectIf (centerDistanceFeet > 90 ∨ ¬ 5 ∣ centerDistanceFeet ∨ candidates.length > 32)
      (.invalidIntent "sleep point or candidate count is invalid")
    validateCandidates [] candidates

end SupportedSpellIntent

/-! ## Effects -/

structure SpellAttackResolution where
  roll : D20Roll
  spellAttackBonus : Int8
  total : Int
  targetArmorClass : Nat
  outcome : D20TestOutcome
  deriving DecidableEq

structure DirectSaveResolution where
  roll : D20Roll
  modifier : Int8
  total : Int
  difficultyClass : Nat
  success : Bool
  deriving DecidableEq

inductive SpellEffect where
  | damage (targetId : String) (damageType : DamageType) (rolledDamage : Nat)
      (interaction : DamageInteraction) (effectiveDamage : Nat)
  | igniteUnattendedFlammableObject (targetId : String)
  | illuminateObject (casterId objectId : String) (brightLightFeet dimLightFeet durationRounds : Nat)
  | createMageHand (hand : MageHandState)
  | magicMissileNegated (targetId : String)
  | shieldWard (armorClassBonus : Nat) (negatesTriggeringAttack immuneToMagicMissile
      untilStartOfCasterTurn : Bool)
  | applyCondition (targetId : String) (condition : ActiveCondition)
  deriving DecidableEq

/-- What the dice of a spell produced. -/
structure SpellRolls where
  attack : Option SpellAttackResolution := none
  savingThrow : Option DirectSaveResolution := none
  damageRolls : List DamageDiceResolution := []
  sleepHitPointPool : Option Nat := none
  effects : List SpellEffect := []
  deriving DecidableEq

structure SpellCastResolution extends SpellRolls where
  schemaVersion : Nat
  spell : SpellId
  resultingResources : RuntimeResources
  resultingActionEconomy : ActionEconomy
  deriving DecidableEq

/-! ## Casting -/

def spendSpellActionAndSlot (spell : SpellId) (resources : RuntimeResources) (economy : ActionEconomy) :
    RulesMatrixResult (RuntimeResources × ActionEconomy) := do
  let economy ← (economy.spend (if spell = .shield then .reaction else .action)).mapError .core
  let resources ← if spell.level = 1 then resources.spendSpellSlot else pure resources
  return (resources, economy)

/-- How a spell attack ends, by the selected die and the total against the armor class. -/
def spellAttackOutcome (selected : Nat) (total : Int) (armorClass : Nat) : D20TestOutcome :=
  if selected = 20 then .criticalHit
  else if selected = 1 then .automaticMiss
  else if total ≥ armorClass then .success
  else .failure

def resolveFireBolt (spellcasting : SpellcastingState) (casterEffects : ConditionEffects)
    (target : FireBoltTarget) (rollContext : RollContext) : Rolling RulesMatrixError SpellRolls := do
  let targetEffects ← Prog.lift (conditionEffects target.conditions (.incomingAttack target.distanceFeet))
  let rangeContext : RollContext :=
    ⟨0, if target.threateningHostileWithinFiveFeet then 1 else 0⟩
  let roll ← (resolveD20 ((rollContext.combine rangeContext).combine
    (casterEffects.rollContext.combine targetEffects.rollContext))).mapErr .core
  let targetArmorClass := target.armorClass + target.cover.armorClassBonus
  Prog.reject (targetArmorClass > maxU8) .arithmeticOverflow
  let total := roll.selected + spellcasting.spellAttackBonus.toInt
  let outcome := spellAttackOutcome roll.selected total targetArmorClass
  let attack := some
    { roll, spellAttackBonus := spellcasting.spellAttackBonus, total, targetArmorClass, outcome }
  if outcome.succeeds = false then return { attack }
  let critical := decide (outcome = .criticalHit) || targetEffects.incomingHitIsCritical
  let damage ← resolveDamageDice 1 10 0 critical
  let interaction ← Prog.lift (target.damageProfile.interaction .fire)
  let effectiveDamage ← Prog.lift (interactedDamage damage.total interaction)
  return {
    attack
    damageRolls := [damage]
    effects := [.damage target.targetId .fire damage.total interaction effectiveDamage] ++
      if target.targetKind = .unattendedFlammableObject
      then [.igniteUnattendedFlammableObject target.targetId] else [] }

def resolveLight (spellcasting : SpellcastingState) (target : LightTarget) :
    Rolling RulesMatrixError SpellRolls := do
  let savingThrow ← match target.hostileCarrier with
    | some carrier => do
      let roll ← (resolveD20 carrier.rollContext).mapErr .core
      let total := roll.selected + carrier.dexteritySaveModifier.toInt
      pure (some
        { roll
          modifier := carrier.dexteritySaveModifier
          total
          difficultyClass := spellcasting.spellSaveDc
          success := total ≥ spellcasting.spellSaveDc : DirectSaveResolution })
    | none => pure none
  return {
    savingThrow
    effects := if savingThrow.any (·.success) then []
      else [.illuminateObject spellcasting.casterId target.objectId 20 20 600] }

/-- One dart: its dice, and what they do to its target. -/
def resolveDart (target : MagicMissileTarget) :
    Rolling RulesMatrixError (DamageDiceResolution × SpellEffect) := do
  let damage ← resolveDamageDice 1 4 1 false
  if target.shielded then return (damage, .magicMissileNegated target.targetId)
  let interaction ← Prog.lift (target.damageProfile.interaction .force)
  let effectiveDamage ← Prog.lift (interactedDamage damage.total interaction)
  return (damage, .damage target.targetId .force damage.total interaction effectiveDamage)

def resolveMagicMissile (first second third : MagicMissileTarget) :
    Rolling RulesMatrixError SpellRolls := do
  let (d₁, e₁) ← resolveDart first
  let (d₂, e₂) ← resolveDart second
  let (d₃, e₃) ← resolveDart third
  return { damageRolls := [d₁, d₂, d₃], effects := [e₁, e₂, e₃] }

def resolveShield (trigger : ShieldTrigger) : SpellRolls :=
  let negatesTriggeringAttack := match trigger with
    | .attackHit naturalRoll attackTotal armorClass =>
      decide (naturalRoll ≠ 20) && decide (attackTotal < min (armorClass + 5) maxU8)
    | .magicMissile => true
  { effects := [.shieldWard 5 negatesTriggeringAttack true true] }

/-- The order in which Sleep takes its candidates: fewest hit points first, then by id. -/
def SleepCandidate.before (a b : SleepCandidate) : Prop :=
  a.currentHitPoints < b.currentHitPoints ∨
    (a.currentHitPoints = b.currentHitPoints ∧ a.targetId ≤ b.targetId)

instance : DecidableRel SleepCandidate.before := fun a b => by
  unfold SleepCandidate.before; infer_instance

/-- The candidates that the pool pays for, in order; the first that is too expensive ends the list. -/
def takeAffordable : Nat → List SleepCandidate → List SleepCandidate
  | _, [] => []
  | remaining, c :: cs =>
    if c.currentHitPoints > remaining then []
    else c :: takeAffordable (remaining - c.currentHitPoints) cs

/-- The conditions a sleeping target receives. -/
def sleepConditions (casterId targetId : String) : List SpellEffect :=
  [ .applyCondition targetId
      { condition := .unconscious
        source := .spell .sleep casterId
        duration := .untilDamagedOrAwakened 10 targetId }
  , .applyCondition targetId
      { condition := .prone, source := .spell .sleep casterId, duration := .permanent } ]

def resolveSleep (spellcasting : SpellcastingState) (candidates : List SleepCandidate) :
    Rolling RulesMatrixError SpellRolls := do
  let poolRoll ← resolveDamageDice 5 8 0 false
  let ordered := (candidates.filter fun c =>
    !c.alreadyUnconscious && !c.immuneToMagicalSleep).insertionSort SleepCandidate.before
  return {
    damageRolls := [poolRoll]
    sleepHitPointPool := some poolRoll.total
    effects := (takeAffordable poolRoll.total ordered).flatMap fun c =>
      sleepConditions spellcasting.casterId c.targetId }

/-- The refusal of a spell the caster does not have ready. -/
def spellNotAvailable (spell : SpellId) : RulesMatrixError :=
  .unsupported
    { schemaVersion := heroUnsupportedSchemaVersion
      code := .notAvailableForHero
      requestedId := spell.mechanicId
      alternatives := [⟨.attack, "Make a supported weapon attack"⟩] }

/-- Everything that is checked before the spell is paid for; returns the effects of the caster's conditions. -/
def checkSpell (spellcasting : SpellcastingState) (resources : RuntimeResources)
    (casterConditions : ConditionSet) (components : SpellComponentAccess) (intent : SupportedSpellIntent) :
    RulesMatrixResult ConditionEffects := do
  spellcasting.validate
  resources.validate
  casterConditions.validate
  intent.validate
  rejectIf (resources.heroClass ≠ .wizard) (unsupportedMechanic "action.cast-supported-spell")
  let spell := intent.spell
  components.validateFor spell
  let casterEffects ← conditionEffects casterConditions
    (if spell = .fireBolt then .ownAttack else .abilityCheck)
  rejectIf (casterEffects.actionsBlocked ∨ (spell = .shield ∧ casterEffects.reactionsBlocked))
    (.invalidIntent "current conditions prevent this spell action or reaction")
  rejectIf (spellcasting.canCast spell = false) (spellNotAvailable spell)
  rejectIf (spell.level = 1 ∧ resources.hasSpellSlot = false)
    (.invalidIntent "no level-one spell slot remains")
  return casterEffects

/-- The dice of an intent that has been checked and paid for. -/
def rollSpell (spellcasting : SpellcastingState) (casterEffects : ConditionEffects) :
    SupportedSpellIntent → Rolling RulesMatrixError SpellRolls
  | .fireBolt target rollContext => resolveFireBolt spellcasting casterEffects target rollContext
  | .light target => resolveLight spellcasting target
  | .mageHand target => pure
    { effects := [.createMageHand
        { schemaVersion := rulesMatrixSchemaVersion
          handId := target.handId
          casterId := spellcasting.casterId
          distanceFromCasterFeet := target.distanceFeet
          remainingRounds := 10 }] }
  | .magicMissile first second third => resolveMagicMissile first second third
  | .shield trigger => pure (resolveShield trigger)
  | .sleep _ candidates => resolveSleep spellcasting candidates

/-- **Check, pay, roll.** The slot and the action are written back only when all three succeed. -/
def resolveSupportedSpell (spellcasting : SpellcastingState) (resources : RuntimeResources)
    (economy : ActionEconomy) (casterConditions : ConditionSet) (components : SpellComponentAccess)
    (intent : SupportedSpellIntent) :
    Rolling (RulesMatrixError × RuntimeResources × ActionEconomy)
      (SpellCastResolution × RuntimeResources × ActionEconomy) := do
  let before := (resources, economy)
  let casterEffects ← Prog.lift (leaving before
    (checkSpell spellcasting resources casterConditions components intent))
  let (nextResources, nextEconomy) ← Prog.lift (leaving before
    (spendSpellActionAndSlot intent.spell resources economy))
  let rolls ← (rollSpell spellcasting casterEffects intent).mapErr (·, before)
  Prog.lift (leaving before nextResources.validate)
  return (
    { rolls with
      schemaVersion := rulesMatrixSchemaVersion
      spell := intent.spell
      resultingResources := nextResources
      resultingActionEconomy := nextEconomy }, nextResources, nextEconomy)

end ManchesterArcana.Rules
