import ManchesterArcana.Encounter.Combat

/-!
# `Encounter.Casting` — spells, the spectral hand, and the fighter's features

The intents that came with the later schema versions. Each resolver first asks whether its action is among
the derived ones, hands the mechanics to the rules matrix, and writes what the matrix decided back into the
state: the pools of the hero, the economy of the turn, the raw rolls and the facts.
-/

namespace ManchesterArcana.Encounter

open Effect Rules

/-! ## Between the encounter and the rules matrix -/

/-- The action has to be among the derived ones. -/
def requireLegal (s : EncounterState) (action : LegalEncounterAction) (reason : String) :
    EncounterResult Unit := do
  let actions ← legalActions s
  rejectIf (action ∉ actions) (.illegalIntent reason)

def liveRules (s : EncounterState) : EncounterResult EncounterHeroRulesProfile :=
  okOr s.heroRules (.illegalIntent "the hero has no live rules snapshot")

def liveSpellcasting (rules : EncounterHeroRulesProfile) : EncounterResult SpellcastingState :=
  okOr rules.spellcasting (.illegalIntent "the hero has no spellcasting snapshot")

def authoredObject (s : EncounterState) (objectId : String) : EncounterResult EncounterObjectState :=
  okOr (s.liveQ04.bind fun live => live.objects.find? (·.objectId = objectId))
    (.illegalIntent "the authored object is not available in this encounter")

def spellSlotCount (resources : RuntimeResources) : Option Nat :=
  resources.levelOneSpellSlots.map (·.current)

/-- A spell of the hero, unimpaired and with every component at hand. -/
def castSupportedSpell (rules : EncounterHeroRulesProfile) (spellcasting : SpellcastingState)
    (economy : ActionEconomy) (intent : SupportedSpellIntent) :
    Rolling EncounterError (SpellCastResolution × RuntimeResources × ActionEconomy) :=
  (resolveSupportedSpell spellcasting rules.runtimeResources economy .empty .available intent).mapErr
    fun e => mapRulesResolutionError e.1

namespace EncounterState

/-- Write the pools and the economy of the turn back. -/
def afterCast (s : EncounterState) (rules : EncounterHeroRulesProfile) (resources : RuntimeResources)
    (economy : ActionEconomy) : EncounterState :=
  { s with
    turnResources := some (.fromActionEconomy economy)
    heroRules := some { rules with runtimeResources := resources } }

end EncounterState

/-! ## Raw rolls of the rules matrix -/

def spellAttackModifierId : String := "srd-5.1-cc:modifier:spell-attack"
def spellDamageModifierId : String := "srd-5.1-cc:modifier:spell-damage"

def spellAttackOutcome (attack : SpellAttackResolution) : AttackOutcome :=
  match attack.outcome with
  | .automaticMiss => .automaticMiss
  | .failure => .miss
  | .success => .hit
  | .criticalHit => .criticalHit

def AttackOutcome.toRaw : AttackOutcome → RawRollOutcome
  | .automaticMiss => .automaticMiss
  | .miss => .miss
  | .hit => .hit
  | .criticalHit => .criticalHit

/-- The dice of a d20 roll, and the index of the kept one. -/
def rawD20 (roll : D20Roll) : EncounterRollMode × List RawDieFact × List Nat :=
  let mode := match roll.mode with
    | .normal => .normal
    | .advantage => .advantage
    | .disadvantage => .disadvantage
  let dice := ⟨20, roll.first⟩ :: (roll.second.toList.map fun second => ⟨20, second⟩)
  (mode, dice, [if roll.first = roll.selected then 0 else 1])

def spellAttackRoll (sequence : Nat) (attack : SpellAttackResolution) (targetId : String)
    (spell : SpellId) : RawRollFacts :=
  let (mode, individualDice, keptDieIndices) := rawD20 attack.roll
  { sequence
    purpose := .attack
    actorId := canalWardenId
    targetId := some targetId
    actionId := some spell.mechanicId
    expression := diceExpression individualDice.length 20 attack.spellAttackBonus.toInt
    mode, individualDice, keptDieIndices
    modifiers := [⟨spellAttackModifierId, attack.spellAttackBonus.toInt16⟩]
    naturalD20 := some attack.roll.selected
    total := attack.total
    comparison := some ⟨.armorClass, attack.targetArmorClass⟩
    outcome := (spellAttackOutcome attack).toRaw }

def spellDamageRoll (sequence : Nat) (damage : DamageDiceResolution) (targetId : String)
    (spell : SpellId) : RawRollFacts where
  sequence := sequence
  purpose := .damage
  actorId := canalWardenId
  targetId := some targetId
  actionId := some spell.mechanicId
  expression := diceExpression damage.dice.length damage.sides damage.constant.toInt
  mode := .normal
  individualDice := damage.dice.map fun value => ⟨damage.sides, value⟩
  keptDieIndices := List.range damage.dice.length
  modifiers := if damage.constant ≠ 0 then [⟨spellDamageModifierId, damage.constant.toInt16⟩] else []
  naturalD20 := none
  total := damage.total
  comparison := none
  outcome := .total

def sleepRoll (sequence : Nat) (damage : DamageDiceResolution) : RawRollFacts where
  sequence := sequence
  purpose := .sleepHitPoints
  actorId := canalWardenId
  targetId := some sootWightId
  actionId := some SpellId.sleep.mechanicId
  expression := diceExpression 5 8 0
  mode := .normal
  individualDice := damage.dice.map fun value => ⟨damage.sides, value⟩
  keptDieIndices := List.range 5
  modifiers := []
  naturalD20 := none
  total := damage.total
  comparison := none
  outcome := .total

def secondWindRoll (sequence : Nat) (resolution : SecondWindResolution) (actorId : String) :
    RawRollFacts where
  sequence := sequence
  purpose := .healing
  actorId := actorId
  targetId := some actorId
  actionId := some secondWindActionId
  expression := diceExpression 1 10 resolution.levelBonus
  mode := .normal
  individualDice := [⟨10, resolution.healingRoll⟩]
  keptDieIndices := [0]
  modifiers := [⟨"srd-5.1-cc:modifier:class-level", .ofNat resolution.levelBonus⟩]
  naturalD20 := none
  total := resolution.healing.requestedHealing
  comparison := none
  outcome := .total

/-- Append the roll that `record` makes of the next sequence number. -/
def Draft.pushRoll (d : Draft) (record : Nat → RawRollFacts) : Draft :=
  { d with rolls := d.rolls ++ [record (d.rolls.length + 1)] }

/-! ## Cantrips of the live schema -/

def resolveCastLight (d : Draft) (objectId : String) : Rolling EncounterError Resolved := do
  Prog.lift (requireLegal d.state (.castLight objectId)
    "Light is not a server-derived legal action for that authored object")
  let object ← Prog.lift (authoredObject d.state objectId)
  let rules ← Prog.lift (liveRules d.state)
  let spellcasting ← Prog.lift (liveSpellcasting rules)
  let resources ← Prog.expect d.state.turnResources "active state has turn resources"
  let (resolution, runtime, economy) ← castSupportedSpell rules spellcasting resources.actionEconomy
    (.light
      { objectId := object.objectId
        distanceFeet := distance d.state.hero.positionFeet object.positionFeet
        objectMaximumDimensionFeet := object.maximumDimensionFeet
        hostileCarrier := none })
  let duration ← Prog.lift (okOr
    (resolution.effects.findSome? fun
      | .illuminateObject _ effectObject _ _ durationRounds =>
        if effectObject = objectId then some durationRounds else none
      | _ => none)
    (.invalidState "Light resolver omitted its authored object effect"))
  let live ← Prog.expect d.state.liveQ04 "schema-v3 state has live Q04 state"
  let lit := { live with
    objects := live.objects.map fun o =>
      if o.objectId = objectId then { o with lightRemainingRounds := some duration } else o }
  return (narration "encounter:spell:light"
    "Arcane light gathers on the old viaduct stone and holds against the soot-dark."
    ("Light illuminates " ++ objectId ++ " for 600 rounds."),
    ((d.update fun s => { s with liveQ04 := some lit }.afterCast rules runtime economy).push
      (.spellCastResolved canalWardenId objectId .light none none 0)).push
      (.lightApplied canalWardenId objectId duration))

def resolveCastMageHand (d : Draft) (anchorObjectId : String) : Rolling EncounterError Resolved := do
  Prog.lift (requireLegal d.state (.castMageHand anchorObjectId)
    "Mage Hand is not a server-derived legal action for that authored anchor")
  let object ← Prog.lift (authoredObject d.state anchorObjectId)
  let distanceFromCaster := distance d.state.hero.positionFeet object.positionFeet
  let rules ← Prog.lift (liveRules d.state)
  let spellcasting ← Prog.lift (liveSpellcasting rules)
  let resources ← Prog.expect d.state.turnResources "active state has turn resources"
  let (resolution, runtime, economy) ← castSupportedSpell rules spellcasting resources.actionEconomy
    (.mageHand { handId := mageHandId, distanceFeet := distanceFromCaster })
  let hand ← Prog.lift (okOr
    (resolution.effects.findSome? fun
      | .createMageHand hand => some hand
      | _ => none)
    (.invalidState "Mage Hand resolver omitted its duration state"))
  let live ← Prog.expect d.state.liveQ04 "schema-v3 state has live Q04 state"
  let handed := { live with mageHand := some hand, mageHandPositionFeet := some object.positionFeet }
  return (narration "encounter:spell:mage-hand"
    "A spectral hand takes shape among the dripping ironwork."
    "Mage Hand appears for 10 rounds.",
    ((d.update fun s => { s with liveQ04 := some handed }.afterCast rules runtime economy).push
      (.spellCastResolved canalWardenId anchorObjectId .mageHand none none 0)).push
      (.mageHandCreated canalWardenId hand.handId anchorObjectId distanceFromCaster hand.remainingRounds))

/-! ## The spectral hand -/

/-- Let the hand act. -/
def actWithHand (live : EncounterLiveQ04State) (resources : TurnResources) (intent : MageHandActionIntent) :
    EncounterResult (MageHandActionResolution × Option MageHandState × ActionEconomy) :=
  (resolveMageHandAction live.mageHand resources.actionEconomy .empty intent).mapError fun e =>
    mapRulesResolutionError e.1

/-- The hand that pulls the lever releases the sluice. -/
def releaseByHand (d : Draft) (objectId : String) : Draft :=
  if objectId = sluiceLeverObjectId ∧ d.state.objectives.contextual.status = .pending then
    (d.update (·.releaseSluice)).push (.contextActionResolved canalWardenId sluiceLeverObjectId
      d.state.creature.hitPoints.temporary releaseSluiceObjectiveId)
  else d

def resolveControlMageHand (d : Draft) (objectId : String) : Rolling EncounterError Resolved := do
  Prog.lift (requireLegal d.state (.controlMageHand objectId)
    "that Mage Hand control is not a server-derived legal action")
  let object ← Prog.lift (authoredObject d.state objectId)
  let resultingDistance := distance d.state.hero.positionFeet object.positionFeet
  let live ← Prog.expect d.state.liveQ04 "schema-v3 state has live Q04 state"
  let current ← Prog.expect live.mageHand "legal control has an active hand"
  let resources ← Prog.expect d.state.turnResources "active state has turn resources"
  let (resolution, _, economy) ← Prog.lift (actWithHand live resources
    (.control
      { objectId := object.objectId
        handMovementFeet := absDiff current.distanceFromCasterFeet resultingDistance
        resultingDistanceFromCasterFeet := resultingDistance
        objectWeightPounds := object.weightPounds
        isMagicItem := object.isMagicItem
        operation := .manipulateObject }))
  match resolution.effect with
  | .controlled handId _ operation _ _ resultingDistanceFromCasterFeet =>
    let handed := { live with
      mageHand := resolution.resultingHand
      mageHandPositionFeet := some object.positionFeet }
    let controlled := (d.update fun s =>
        { s with liveQ04 := some handed, turnResources := some (.fromActionEconomy economy) }).push
      (.mageHandControlled canalWardenId handId objectId operation resultingDistanceFromCasterFeet)
    return (narration "encounter:spell:mage-hand-control"
      "The spectral hand closes around the cleansing lever and drags it down; canal water answers."
      "Mage Hand manipulates the authored sluice lever.", releaseByHand controlled objectId)
  | .dismissed _ => Prog.err (.invalidState "Mage Hand control returned the wrong effect")

def resolveDismissMageHand (d : Draft) : Rolling EncounterError Resolved := do
  Prog.lift (requireLegal d.state .dismissMageHand "Mage Hand cannot be dismissed now")
  let live ← Prog.expect d.state.liveQ04 "schema-v3 state has live Q04 state"
  let resources ← Prog.expect d.state.turnResources "active state has turn resources"
  let (resolution, _, economy) ← Prog.lift (actWithHand live resources .dismiss)
  match resolution.effect with
  | .dismissed handId =>
    let gone := { live with mageHand := none, mageHandPositionFeet := none }
    return (narration "encounter:spell:mage-hand-dismiss"
      "The spectral hand thins into rain and is gone."
      "Mage Hand is dismissed.",
      (d.update fun s =>
        { s with liveQ04 := some gone, turnResources := some (.fromActionEconomy economy) }).push
        (.mageHandDismissed canalWardenId handId))
  | .controlled .. => Prog.err (.invalidState "Mage Hand dismissal returned the wrong effect")

/-! ## Sleep -/

/-- The targets that received a condition, once each and in order. -/
def affectedTargets (effects : List SpellEffect) : List String :=
  ((effects.filterMap fun
    | .applyCondition targetId _ => some targetId
    | _ => none).dedup).insertionSort (· ≤ ·)

/-- The creature falls asleep for ten rounds. -/
def EncounterState.fallAsleep (s : EncounterState) (live : EncounterLiveQ04State) : EncounterState :=
  { s with
    creature := { s.creature with statusEffects := s.creature.statusEffects ++ [.magicallyAsleep] }
    liveQ04 := some { live with sleep := some ⟨sootWightId, 10⟩ } }

def sleepNarration (affected : List String) (pool : Nat) : DeterministicNarration :=
  if affected.isEmpty then
    narration "encounter:spell:sleep-resisted"
      "Drowsing magic rolls through the soot, but the wight remains upright."
      ("Sleep rolled a " ++ toString pool ++ " hit-point pool; no target was affected.")
  else
    narration "encounter:spell:sleep"
      "The Soot Wight folds into the wet stones under the weight of sudden slumber."
      ("Sleep rolled a " ++ toString pool ++ " hit-point pool and affected the Soot Wight.")

def resolveCastSleep (d : Draft) : Rolling EncounterError Resolved := do
  Prog.lift (requireLegal d.state .castSleep "Sleep is not a server-derived legal action")
  let rules ← Prog.lift (liveRules d.state)
  let spellcasting ← Prog.lift (liveSpellcasting rules)
  let slotsBefore ← Prog.lift (okOr (spellSlotCount rules.runtimeResources)
    (.invalidState "wizard spell slots are absent"))
  let resources ← Prog.expect d.state.turnResources "active state has turn resources"
  let (resolution, runtime, economy) ← castSupportedSpell rules spellcasting resources.actionEconomy
    (.sleep (distance d.state.hero.positionFeet d.state.creature.positionFeet)
      [ { targetId := sootWightId
          distanceFromPointFeet := 0
          currentHitPoints := d.state.creature.hitPoints.current
          alreadyUnconscious := false
          immuneToMagicalSleep := false } ])
  let pool ← Prog.lift (okOr resolution.sleepHitPointPool
    (.invalidState "Sleep resolver omitted its hit-point pool"))
  let poolRoll ← Prog.lift (okOr resolution.damageRolls.head?
    (.invalidState "Sleep resolver omitted its canonical 5d8 roll"))
  let affected := affectedTargets resolution.effects
  let live ← Prog.expect d.state.liveQ04 "schema-v3 state has live Q04 state"
  let slotsAfter ← Prog.expect (spellSlotCount runtime) "wizard slots remain present"
  let slept := d.update fun s => if sootWightId ∈ affected then s.fallAsleep live else s
  return (sleepNarration affected pool,
    (((slept.pushRoll fun sequence => sleepRoll sequence poolRoll).update
      (·.afterCast rules runtime economy)).push
      (.spellCastResolved canalWardenId sootWightId .sleep (some slotsBefore) (some slotsAfter) 0)).push
      (.sleepResolved canalWardenId pool [sootWightId] affected 10))

/-! ## Fire Bolt and Magic Missile -/

def liveSpellLabel : SpellId → String
  | .fireBolt => "Fire Bolt"
  | .magicMissile => "Magic Missile"
  | .light => "Light"
  | .mageHand => "Mage Hand"
  | .shield => "Shield"
  | .sleep => "Sleep"

/-- The spell intent against the creature. A hostile creature within five feet hampers a Fire Bolt. -/
def boltIntent (spell : SpellId) (targetId : String) (distanceFeet armorClass : Nat) :
    Option SupportedSpellIntent :=
  match spell with
  | .fireBolt => some (.fireBolt
      { targetId, distanceFeet
        visible := true
        armorClass
        cover := .none
        threateningHostileWithinFiveFeet := distanceFeet ≤ 5
        damageProfile := .normal
        targetKind := .creature
        conditions := .empty } .normal)
  | .magicMissile =>
    let target : MagicMissileTarget :=
      { targetId, distanceFeet, visible := true, shielded := false, damageProfile := .normal }
    some (.magicMissile target target target)
  | _ => none

/-- The damage of a spell's effects, and its type; every damaging effect has to be on the target, of fire or
    force, and of the same type as the others. -/
def spellDamage (targetId : String) : List SpellEffect → Option DamageType → Nat →
    EncounterResult (Option DamageType × Nat)
  | [], damageType, applied => .ok (damageType, applied)
  | .damage effectTarget effectType _ _ effectiveDamage :: rest, damageType, applied => do
    rejectIf (effectTarget ≠ targetId)
      (.invalidState "spell resolver emitted damage for an unexpected target")
    let mapped ← match effectType with
      | .fire => .ok .fire
      | .force => .ok .force
      | _ => .error (.invalidState "spell resolver emitted an unexpected damage type")
    rejectIf (∃ existing ∈ damageType, existing ≠ mapped)
      (.invalidState "one spell resolution mixed damage types")
    rejectIf (applied + effectiveDamage > maxU16)
      (.invalidState "spell damage overflowed the encounter range")
    spellDamage targetId rest (some mapped) (applied + effectiveDamage)
  | _ :: rest, damageType, applied => spellDamage targetId rest damageType applied

/-- Record the attack of a spell, when it has one. -/
def recordSpellAttack (d : Draft) (attack : Option SpellAttackResolution) (targetId : String)
    (spell : SpellId) (distanceFeet : Nat) : Draft :=
  match attack with
  | some attack =>
    (d.pushRoll fun sequence => spellAttackRoll sequence attack targetId spell).push
      (.attackResolved canalWardenId targetId spell.mechanicId distanceFeet 120 attack.targetArmorClass
        attack.total (spellAttackOutcome attack))
  | none => d

def spellNarration (s : EncounterState) (spell : SpellId) (outcome : Option AttackOutcome)
    (damageApplied : Nat) : DeterministicNarration :=
  if outcome.any fun outcome => !outcome.isHit then
    narration "encounter:spell:miss"
      (heroNarrativeName s ++ " casts Fire Bolt, but the flame gutters past the Soot Wight.")
      "Fire Bolt misses the Soot Wight."
  else
    narration "encounter:spell:damage"
      (heroNarrativeName s ++ " casts " ++ liveSpellLabel spell ++ ", dealing " ++ toString damageApplied ++
        " damage to the Soot Wight.")
      (liveSpellLabel spell ++ " deals " ++ toString damageApplied ++ " damage to the Soot Wight.")

/-- The damage of a spell to its target, and what follows from it. -/
def applySpellDamage (d : Draft) (target : CombatantState) (targetId : String) (spell : SpellId)
    (damageType : DamageType) (critical : Bool) (damage : Nat) : Option EncounterOutcome × Draft :=
  let (struck, application) := applyDamage target damage critical d.state.lethalityPolicy
  let d := (d.update (·.updateCombatant targetId fun _ => struck)).push
    (damageFact canalWardenId targetId spell.mechanicId damageType critical damage application)
  let d := wakeSleepAfterDamage d targetId damage
  let d := recordLifeChange d targetId application.lifeBefore application.lifeAfter
    d.state.creature.hitPoints.deathSaves
  finishForHealthTransition d targetId

def resolveCastSpell (d : Draft) (spell : SpellId) (targetId : String) :
    Rolling EncounterError Resolved := do
  Prog.reject (spell ≠ .fireBolt ∧ spell ≠ .magicMissile)
    (.illegalIntent "that allowlisted spell is not exposed by this encounter")
  let actorId ← Prog.lift (requireConsciousActiveActor d.state)
  Prog.reject (actorId ≠ canalWardenId) (.illegalIntent "the spell is not a server-derived legal action")
  let actions ← Prog.lift (legalActions d.state)
  Prog.reject (¬ actions.any fun
      | .castSpell legalSpell legalTarget _ => legalSpell = spell ∧ legalTarget = targetId
      | _ => false)
    (.illegalIntent "the spell is not a server-derived legal action")
  let distanceFeet := distance d.state.hero.positionFeet d.state.creature.positionFeet
  Prog.reject (d.state.creature.armorClass > maxU8)
    (.invalidState "spell target armor class is outside the rules-matrix range")
  let rules ← Prog.lift (liveRules d.state)
  let spellcasting ← Prog.lift (liveSpellcasting rules)
  let resources ← Prog.expect d.state.turnResources "active state has turn resources"
  let intent ← Prog.expect (boltIntent spell targetId distanceFeet d.state.creature.armorClass)
    "unsupported spells returned before intent assembly"
  let (resolution, runtime, economy) ← castSupportedSpell rules spellcasting resources.actionEconomy intent
  let outcome := resolution.attack.map spellAttackOutcome
  let attacked := recordSpellAttack d resolution.attack targetId spell distanceFeet
  let rolled := resolution.damageRolls.foldl
    (fun d damage => d.pushRoll fun sequence => spellDamageRoll sequence damage targetId spell) attacked
  let (damageType, damageApplied) ← Prog.lift (spellDamage targetId resolution.effects none 0)
  let cast := (rolled.update (·.afterCast rules runtime economy)).push
    (.spellCastResolved actorId targetId spell (spellSlotCount rules.runtimeResources)
      (spellSlotCount runtime) damageApplied)
  if damageApplied = 0 then
    return (spellNarration cast.state spell outcome damageApplied, cast)
  else
    let target ← Prog.expect (cast.state.combatant targetId) "the fixed spell target exists"
    let damageType ← Prog.expect damageType "positive spell damage has a type"
    let (completion, done) := applySpellDamage cast target targetId spell damageType
      (outcome.any (·.isCritical)) damageApplied
    if completion = some .victory then
      return (narration "encounter:complete:spell-victory"
        (heroNarrativeName done.state ++
          "'s magic tears the Soot Wight apart; cleansing water carries the ash away.")
        "The Soot Wight is defeated by a spell. The encounter ends in victory.", done)
    else return (spellNarration done.state spell outcome damageApplied, done)

/-! ## Features of the fighter -/

/-- A pool's contents, or nothing. -/
def poolCount (pool : Option ResourceCounter) : Nat := (pool.map (·.current)).getD 0

/-- The hero's health as the features see it. -/
def activeHealth (c : CombatantState) : HealthState where
  maximum := c.hitPoints.maximum
  current := c.hitPoints.current
  temporary := c.hitPoints.temporary
  vitalStatus := .active
  deathSaves := {}

def resolveSecondWind (d : Draft) : Rolling EncounterError Resolved := do
  let actorId ← Prog.lift (requireConsciousActiveActor d.state)
  Prog.reject (actorId ≠ canalWardenId) (.illegalIntent "Second Wind is not a server-derived legal action")
  Prog.lift (requireLegal d.state .secondWind "Second Wind is not a server-derived legal action")
  let rules ← Prog.lift (liveRules d.state)
  let resources ← Prog.expect d.state.turnResources "active state has turn resources"
  let (resolution, runtime, economy, health) ←
    (useSecondWind rules.runtimeResources resources.actionEconomy (activeHealth d.state.hero)).mapErr
      fun e => mapRulesResolutionError e.1
  let healed := ((d.pushRoll fun sequence => secondWindRoll sequence resolution actorId).update
    fun s => { s with hero := { s.hero with hitPoints := { s.hero.hitPoints with
      current := health.current } } }.afterCast rules runtime economy)
  return (narration "encounter:feature:second-wind"
    (heroNarrativeName d.state ++ " catches a second wind and recovers " ++
      toString resolution.healing.effectiveHealing ++ " hit points.")
    ("Second Wind restores " ++ toString resolution.healing.effectiveHealing ++ " hit points."),
    (healed.push (.classFeatureResolved actorId .secondWind .secondWind
      (poolCount rules.runtimeResources.secondWind) (poolCount runtime.secondWind) economy.actionAvailable
      economy.bonusActionAvailable)).push
      (.healingApplied actorId .secondWind resolution.healing.requestedHealing
        resolution.healing.effectiveHealing d.state.hero.hitPoints.current health.current))

def resolveActionSurge (d : Draft) : Rolling EncounterError Resolved := do
  let actorId ← Prog.lift (requireConsciousActiveActor d.state)
  Prog.reject (actorId ≠ canalWardenId) (.illegalIntent "Action Surge is not a server-derived legal action")
  Prog.lift (requireLegal d.state .actionSurge "Action Surge is not a server-derived legal action")
  let rules ← Prog.lift (liveRules d.state)
  let resources ← Prog.expect d.state.turnResources "active state has turn resources"
  let (_, runtime, economy) ← Prog.lift
    ((useActionSurge rules.runtimeResources resources.actionEconomy).mapError fun e =>
      mapRulesResolutionError e.1)
  return (narration "encounter:feature:action-surge"
    (heroNarrativeName d.state ++ " surges through the opening and regains an action.")
    "Action Surge restores the hero's action for this turn.",
    (d.update (·.afterCast rules runtime economy)).push
      (.classFeatureResolved actorId .actionSurge .actionSurge (poolCount rules.runtimeResources.actionSurge)
        (poolCount runtime.actionSurge) economy.actionAvailable economy.bonusActionAvailable))

end ManchesterArcana.Encounter
