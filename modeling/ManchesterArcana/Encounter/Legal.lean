import ManchesterArcana.Encounter.Validate

/-!
# `Encounter.Legal` — which actions are on offer, and to whom

`legalActions` derives the actions of a state, `playerLegalActions` the ones a player may select, and
`requirePlayerControl` is the guard a client's intent has to pass. The Soot Wight's intents are picked by a
closed policy.
-/

namespace ManchesterArcana.Encounter

open Effect Rules

namespace TurnResources

def actionEconomy (r : TurnResources) : ActionEconomy where
  actionAvailable := r.actionAvailable
  bonusActionAvailable := r.bonusActionAvailable
  reactionAvailable := r.reactionAvailable
  objectInteractionAvailable := r.objectInteractionAvailable
  movementRemainingFeet := r.movementRemainingFeet

def fromActionEconomy (e : ActionEconomy) : TurnResources where
  actionAvailable := e.actionAvailable
  movementRemainingFeet := e.movementRemainingFeet
  bonusActionAvailable := e.bonusActionAvailable
  reactionAvailable := e.reactionAvailable
  objectInteractionAvailable := e.objectInteractionAvailable

end TurnResources

/-! ## Combatants by id -/

/-- The attacks of a combatant: the hero's snapshot or the authored longsword, and the creature's claw. -/
def attacksForActor (s : EncounterState) (actorId : String) : Option (List EncounterAttack) :=
  if actorId = canalWardenId then
    if s.hero.attacks = [] then some [heroAttack] else some s.hero.attacks
  else if actorId = sootWightId then some [creatureAttack]
  else none

def attackForActor (s : EncounterState) (actorId attackId : String) : Option EncounterAttack :=
  (attacksForActor s actorId).bind fun attacks => attacks.find? (·.attackId = attackId)

def opposingCombatant (s : EncounterState) (actorId : String) : Option CombatantState :=
  if actorId = canalWardenId then some s.creature
  else if actorId = sootWightId then some s.hero
  else none

namespace EncounterState

def pendingReaction (s : EncounterState) : Bool :=
  decide (s.schemaVersion = encounterSchemaVersion) && s.liveQ04.any (·.pendingAttackReaction.isSome)

/-- Whether the creature's magical sleep is running. -/
def sleeping (s : EncounterState) : Bool := s.liveQ04.any (·.sleep.isSome)

end EncounterState

/-! ## Shield -/

def shieldSpellReady (s : EncounterState) : Bool :=
  match s.liveQ04, s.heroRules with
  | some live, some rules =>
    live.heroReactionAvailable && live.shieldWard.isNone && decide (s.hero.lifeStatus = .conscious) &&
      decide (rules.runtimeResources.heroClass = .wizard) && rules.runtimeResources.hasSpellSlot &&
      rules.spellcasting.any fun spellcasting => decide (SpellId.shield ∈ spellcasting.prepared)
  | _, _ => false

def shieldReactionAvailable (s : EncounterState) : Bool :=
  s.liveQ04.any (·.pendingAttackReaction.isSome) && shieldSpellReady s

/-! ## Actions of the current actor -/

/-- Whether the rules matrix has the action available to an unimpaired actor. -/
def isActionAvailable (economy : ActionEconomy) (context : ActionContext) (reason : String) :
    EncounterResult Bool := do
  let availability ← (actionAvailability economy .empty context).mapError fun _ => .invalidState reason
  return availability.isAvailable

/-- `action`, when the rules matrix has it available. -/
def offerWhen (available : EncounterResult Bool) (action : LegalEncounterAction) :
    EncounterResult (List LegalEncounterAction) :=
  (if · then [action] else []) <$> available

def moveActions (s : EncounterState) (actor : CombatantState) (r : TurnResources) :
    List LegalEncounterAction :=
  if r.movementRemainingFeet > 0 then
    [ .move (max (actor.positionFeet - r.movementRemainingFeet) s.map.minimumPositionFeet)
        (min (actor.positionFeet + r.movementRemainingFeet) s.map.maximumPositionFeet)
        r.movementRemainingFeet ]
  else []

def attackActions (actor target : CombatantState) (r : TurnResources) (attacks : List EncounterAttack) :
    List LegalEncounterAction :=
  if r.actionAvailable ∧ target.lifeStatus ≠ .dead then
    (attacks.filter fun a => distance actor.positionFeet target.positionFeet ≤ a.rangeFeet).map fun a =>
      .attack a.attackId target.id a.rangeFeet
  else []

/-- Fire Bolt or Magic Missile against the opposing combatant. -/
def boltActions (rules : EncounterHeroRulesProfile) (spellcasting : SpellcastingState)
    (actor target : CombatantState) (economy : ActionEconomy) (spell : SpellId) :
    EncounterResult (List LegalEncounterAction) :=
  let prepared := if spell.level = 0 then decide (spell ∈ spellcasting.cantrips)
    else decide (spell ∈ spellcasting.prepared)
  offerWhen
    (isActionAvailable economy
      (.castSpell spell (distance actor.positionFeet target.positionFeet ≤ 120) prepared
        rules.runtimeResources.hasSpellSlot)
      "spell action availability could not be derived")
    (.castSpell spell target.id 120)

/-- Light on one of the authored objects. -/
def lightActions (spellcasting : SpellcastingState) (actor : CombatantState) (economy : ActionEconomy)
    (object : EncounterObjectState) : EncounterResult (List LegalEncounterAction) :=
  if SpellId.light ∈ spellcasting.cantrips ∧ distance actor.positionFeet object.positionFeet ≤ 5 then
    offerWhen
      (isActionAvailable economy (.castSpell .light true true true) "Light availability could not be derived")
      (.castLight object.objectId)
  else .ok []

/-- A new hand, anchored at an authored object in range. -/
def mageHandActions (live : EncounterLiveQ04State) (spellcasting : SpellcastingState)
    (actor : CombatantState) (economy : ActionEconomy) : EncounterResult (List LegalEncounterAction) := do
  if SpellId.mageHand ∉ spellcasting.cantrips then return []
  let available ← isActionAvailable economy (.castSpell .mageHand true true true)
    "Mage Hand availability could not be derived"
  if available then
    return (live.objects.filter fun o => distance actor.positionFeet o.positionFeet ≤ 30).map fun o =>
      .castMageHand o.objectId
  else return []

/-- What an existing hand can do. -/
def handControlActions (s : EncounterState) (live : EncounterLiveQ04State) (actor : CombatantState)
    (economy : ActionEconomy) : List LegalEncounterAction :=
  if live.mageHand.isSome ∧ economy.actionAvailable then
    (if s.objectives.contextual.status = .pending ∧ distance actor.positionFeet sluicePositionFeet ≤ 30
      then [.controlMageHand sluiceLeverObjectId] else []) ++ [.dismissMageHand]
  else []

def sleepActions (s : EncounterState) (live : EncounterLiveQ04State) (rules : EncounterHeroRulesProfile)
    (spellcasting : SpellcastingState) (actor : CombatantState) (economy : ActionEconomy) :
    EncounterResult (List LegalEncounterAction) :=
  if SpellId.sleep ∈ spellcasting.prepared ∧ s.creature.lifeStatus = .conscious ∧ live.sleep.isNone then
    offerWhen
      (isActionAvailable economy
        (.castSpell .sleep (distance actor.positionFeet s.creature.positionFeet ≤ 90) true
          rules.runtimeResources.hasSpellSlot)
        "Sleep availability could not be derived")
      .castSleep
  else .ok []

/-- The spells of the live schema. -/
def liveSpellActions (s : EncounterState) (live : EncounterLiveQ04State)
    (rules : EncounterHeroRulesProfile) (spellcasting : SpellcastingState) (actor : CombatantState)
    (economy : ActionEconomy) : EncounterResult (List LegalEncounterAction) := do
  let lights ← gather (lightActions spellcasting actor economy) live.objects
  let hands ← mageHandActions live spellcasting actor economy
  let sleeps ← sleepActions s live rules spellcasting actor economy
  return lights ++ hands ++ handControlActions s live actor economy ++ sleeps

def spellActions (s : EncounterState) (rules : EncounterHeroRulesProfile) (actor target : CombatantState)
    (economy : ActionEconomy) : EncounterResult (List LegalEncounterAction) := do
  match rules.spellcasting with
  | none => return []
  | some spellcasting =>
    let bolts ← gather (boltActions rules spellcasting actor target economy) [.fireBolt, .magicMissile]
    if s.schemaVersion ≠ encounterSchemaVersion then return bolts
    match s.liveQ04 with
    | some live =>
      return bolts ++ (← liveSpellActions s live rules spellcasting actor economy)
    -- a state of the live schema that passed its check has live runtime
    | none => return bolts

/-- Second Wind and Action Surge. -/
def fighterActions (rules : EncounterHeroRulesProfile) (economy : ActionEconomy) :
    EncounterResult (List LegalEncounterAction) := do
  if rules.runtimeResources.heroClass ≠ .fighter then return []
  let winds ← offerWhen
    (isActionAvailable economy (.secondWind (rules.runtimeResources.secondWind.any (·.current > 0)))
      "Second Wind availability could not be derived") .secondWind
  let surges ← offerWhen
    (isActionAvailable economy
      (.actionSurge (!economy.actionAvailable && rules.runtimeResources.actionSurge.any (·.current > 0)))
      "Action Surge availability could not be derived") .actionSurge
  return winds ++ surges

/-- The actions that a created hero's rules snapshot adds. -/
def rulesActions (s : EncounterState) (actor target : CombatantState) (r : TurnResources) :
    EncounterResult (List LegalEncounterAction) := do
  if actor.id ≠ canalWardenId ∨ target.lifeStatus = .dead then return []
  match s.heroRules with
  | none => return []
  | some rules =>
    let spells ← spellActions s rules actor target r.actionEconomy
    let features ← fighterActions rules r.actionEconomy
    return spells ++ features

def contextActions (s : EncounterState) (actor : CombatantState) (r : TurnResources) :
    List LegalEncounterAction :=
  if actor.id = canalWardenId ∧ r.objectInteractionAvailable ∧ s.objectives.contextual.status = .pending ∧
      distance actor.positionFeet s.map.sluicePositionFeet ≤ s.map.contextRangeFeet
  then [.contextAction releaseSluiceActionId] else []

/-- The actions of a turn. -/
def turnActions (s : EncounterState) : EncounterResult (List LegalEncounterAction) := do
  let actor ← okOr s.currentActor (.invalidState "active state has no current actor")
  if actor.lifeStatus = .unconscious then return [.rollDeathSave]
  if actor.lifeStatus ≠ .conscious then
    .error (.invalidState "an active current actor is neither conscious nor making death saves")
  else if actor.id = sootWightId ∧ s.sleeping then return [.endTurn]
  else
    let r ← okOr s.turnResources (.invalidState "active state has no turn resources")
    let attacks ← okOr (attacksForActor s actor.id)
      (.invalidState "current actor has no fixed encounter attack")
    let target ← okOr (opposingCombatant s actor.id)
      (.invalidState "current actor has no opposing target")
    let fromRules ← rulesActions s actor target r
    return moveActions s actor r ++ attackActions actor target r attacks ++ fromRules ++
      contextActions s actor r ++ [.endTurn]

/-! ## Rests -/

/-- What a short rest under way allows. -/
def shortRestActions (s : EncounterState) (rules : EncounterHeroRulesProfile) (rest : ShortRestState) :
    List LegalEncounterAction :=
  (if s.hero.hitPoints.current < s.hero.hitPoints.maximum ∧ rules.runtimeResources.hitDice.current > 0
    then [.spendHitDie] else []) ++
  (if rest.arcaneRecoveryUsed = false ∧ rules.runtimeResources.arcaneRecovery.any (·.current > 0) ∧
      rules.runtimeResources.levelOneSpellSlots.any (fun slots => slots.current < slots.maximum)
    then [.useArcaneRecovery] else []) ++
  [.finishShortRest]

/-- A long rest needs a day since the last one. -/
def longRestAvailable (live : EncounterLiveQ04State) : Bool :=
  live.lastLongRestCompletedAtCampaignMinute.all fun last => live.campaignTimeMinutes - last ≥ 24 * 60

def restLegalActions (s : EncounterState) : List LegalEncounterAction :=
  if s.schemaVersion ≠ encounterSchemaVersion ∨ s.isSafeRestBoundary = false then []
  else match s.liveQ04, s.heroRules with
    | some live, some rules =>
      if rules.constitutionModifier.isNone then []
      else match live.activeShortRest with
        | some rest => shortRestActions s rules rest
        | none => [.beginShortRest] ++ if longRestAvailable live then [.takeLongRest] else []
    | _, _ => []

/-! ## The three derivations -/

def legalActions (s : EncounterState) : EncounterResult (List LegalEncounterAction) := do
  s.validate
  if s.pendingReaction then
    return (if shieldReactionAvailable s then [.castShield] else []) ++ [.declineReaction]
  match s.status with
  | .ready => return [.startEncounter]
  | .victory | .defeat => return restLegalActions s
  | .active => turnActions s

/-- The actions a player may select. A creature turn offers none, except a reaction to its hit. -/
def playerLegalActions (s : EncounterState) : EncounterResult (List LegalEncounterAction) := do
  s.validate
  -- versions 1 and 2 remain replayable but are read-only
  if s.schemaVersion < encounterSchemaVersion then return []
  if s.liveQ04.any (·.pendingAttackReaction.isSome) then legalActions s
  else match s.status with
    | .ready => return [.startEncounter]
    | .active => if s.currentActorId = some s.hero.id then legalActions s else return []
    | .victory | .defeat => legalActions s

/-- The boundary between the player and the controller, before a client's intent is resolved. -/
def requirePlayerControl (s : EncounterState) : EncounterResult Unit := do
  s.validate
  if s.schemaVersion = encounterSchemaVersion ∧
      (s.liveQ04.any (·.pendingAttackReaction.isSome) ∨ s.isSafeRestBoundary) then return ()
  if s.status = .active ∧ s.currentActorId ≠ some s.hero.id then
    let currentActorId ← okOr s.currentActorId (.invalidState "active state has no current actor")
    .error (.playerControlUnavailable currentActorId)

/-! ## The closed policy of the Soot Wight -/

/-- Five feet short of the hero, on the creature's side. -/
def desiredPosition (s : EncounterState) : Nat :=
  let current := s.creature.positionFeet
  let hero := s.hero.positionFeet
  if current < hero then hero - 5
  else if current > hero then min (hero + 5) s.map.maximumPositionFeet
  else current

/-- Attack when the claw is legal; otherwise move as close as possible; otherwise end the turn. -/
def selectSootWightPolicyIntent (s : EncounterState) : EncounterResult EncounterIntent := do
  s.validate
  rejectIf (s.status ≠ .active ∨ s.currentActorId ≠ some s.creature.id ∨ s.creature.id ≠ sootWightId)
    (.deterministicPolicyUnavailable "the Soot Wight is not the active current actor")
  let actions ← legalActions s
  if actions.any fun
    | .attack attackId targetId _ => attackId = sootWightAttackId ∧ targetId = s.hero.id
    | _ => false
  then return .attack sootWightAttackId s.hero.id
  let bounds := actions.findSome? fun
    | .move minimum maximum _ => some (minimum, maximum)
    | _ => none
  let approach := bounds.bind fun (minimum, maximum) =>
    let destination := max minimum (min maximum (desiredPosition s))
    if destination ≠ s.creature.positionFeet ∧
        distance destination s.hero.positionFeet < distance s.creature.positionFeet s.hero.positionFeet
    then some destination else none
  match approach with
  | some destination => return .move destination
  | none =>
    if .endTurn ∈ actions then return .endTurn
    else .error (.deterministicPolicyUnavailable "the closed policy has no legal action")

end ManchesterArcana.Encounter
