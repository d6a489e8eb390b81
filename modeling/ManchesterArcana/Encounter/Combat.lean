import ManchesterArcana.Encounter.Turn

/-!
# `Encounter.Combat` — start, movement, weapon attacks, the sluice, and death saves

One resolver for each of the intents that every schema version knows. A resolver takes the draft apart guard
by guard, in the order of the source, and ends in the narration and the draft it leaves behind. What the
author marked as unreachable is a panic here.
-/

namespace ManchesterArcana.Encounter

open Effect Rules

/-- A narration and the draft it is about. -/
abbrev Resolved := DeterministicNarration × Draft

def requireConsciousActiveActor (s : EncounterState) : EncounterResult String := do
  rejectIf (s.status ≠ .active) (.illegalIntent "the encounter is not active")
  let actor ← okOr s.currentActor (.invalidState "active state has no current actor")
  rejectIf (actor.lifeStatus ≠ .conscious)
    (.illegalIntent "the current actor cannot take ordinary actions")
  return actor.id

namespace EncounterState

/-- Rewrite the combatant with an id. -/
def updateCombatant (s : EncounterState) (id : String) (f : CombatantState → CombatantState) :
    EncounterState :=
  if id = canalWardenId then { s with hero := f s.hero }
  else if id = sootWightId then { s with creature := f s.creature }
  else s

/-- Release the sluice: the creature loses its soot veil. -/
def releaseSluice (s : EncounterState) : EncounterState :=
  { s with
    creature := { s.creature with
      hitPoints := { s.creature.hitPoints with temporary := 0 }
      statusEffects := s.creature.statusEffects.filter (· ≠ .sootVeil) }
    objectives := { s.objectives with contextual := { s.objectives.contextual with status := .completed } } }

end EncounterState

/-! ## Start -/

/-- The initiative roll of a participant. -/
def initiativeRequest (participantId modifierId : String) (modifier : Int8) : RollRequest where
  purpose := .initiative
  actorId := participantId
  targetId := none
  actionId := none
  diceCount := 1
  sides := 20
  modifiers := [⟨modifierId, modifier.toInt16⟩]
  comparison := none

/-- The initiative entry of a participant's roll. -/
def initiativeEntry (participantId : String) (modifier : Int8) (roll : RawRollFacts) :
    Rolling EncounterError InitiativeEntry := do
  let naturalRoll ← Prog.expect roll.naturalD20 "initiative is a d20"
  let total ← Prog.expect
    (if minI16 ≤ roll.total ∧ roll.total ≤ maxI16 then some roll.total else none)
    "bounded initiative total"
  return { participantId, naturalRoll, modifier, total, tieBreakRank := 0 }

def startNarration (s : EncounterState) (firstActorId : String) : DeterministicNarration :=
  if firstActorId = canalWardenId then
    narration "encounter:start:canal-warden-first"
      (heroNarrativeName s ++ " reads the soot's motion and acts before the Soot Wight can close.")
      ("The encounter begins. " ++ heroNarrativeName s ++ " acts first.")
  else
    narration "encounter:start:soot-wight-first"
      "The Soot Wight spills from the viaduct shadow and seizes the first move."
      "The encounter begins. The Soot Wight acts first."

def resolveStart (d : Draft) : Rolling EncounterError Resolved := do
  Prog.reject (d.state.status ≠ .ready) (.illegalIntent "the encounter has already started")
  let (heroRoll, rolls) ← performRoll d.rolls
    (initiativeRequest canalWardenId "srd-5.1-cc:modifier:dexterity-initiative"
      d.state.hero.initiativeModifier)
  let (creatureRoll, rolls) ← performRoll rolls
    (initiativeRequest sootWightId "manchester-arcana-content:v1:modifier:soot-wight-initiative"
      d.state.creature.initiativeModifier)
  let heroEntry ← initiativeEntry canalWardenId d.state.hero.initiativeModifier heroRoll
  let creatureEntry ← initiativeEntry sootWightId d.state.creature.initiativeModifier creatureRoll
  let initiative := initiativeOf [heroEntry, creatureEntry]
  let state ← setCurrentTurn
    { d.state with initiative := some initiative, status := .active, round := 1 } 0
  let currentActorId ← Prog.expect state.currentActorId "the first initiative entry exists"
  return (startNarration state currentActorId,
    { d with state, rolls }.push (.encounterStarted 1 initiative.order currentActorId))

/-! ## Movement -/

/-- The spectral hand stays where it is when the hero moves, and ends when the hero leaves its range. -/
def followHand (d : Draft) (destinationFeet : Nat) : Rolling EncounterError Draft := do
  match d.state.liveQ04 with
  | none => return d
  | some live =>
    match live.mageHandPositionFeet with
    | none => return d
    | some handPosition =>
      let (expired, mageHand) ← Prog.lift ((reconcileMageHandDistance live.mageHand
        (distance destinationFeet handPosition)).mapError fun e => mapRulesResolutionError e.1)
      if expired then
        return (d.update fun s =>
          { s with liveQ04 := some { live with mageHand, mageHandPositionFeet := none } }).push
            (.mageHandExpired mageHandId)
      else return d.update fun s => { s with liveQ04 := some { live with mageHand } }

def moveNarration (actorName : String) (requestedFeet destinationFeet : Nat) : DeterministicNarration :=
  narration "encounter:move"
    (actorName ++ " crosses " ++ toString requestedFeet ++ " feet of the rain-slick towpath.")
    ("The current actor moves to " ++ toString destinationFeet ++ " feet.")

/-- Neither a pending reaction nor sleep is looked at here. -/
def resolveMove (d : Draft) (destinationFeet : Nat) : Rolling EncounterError Resolved := do
  let actorId ← Prog.lift (requireConsciousActiveActor d.state)
  Prog.reject (destinationFeet < d.state.map.minimumPositionFeet ∨
      destinationFeet > d.state.map.maximumPositionFeet ∨ ¬ 5 ∣ destinationFeet)
    (.invalidDestination destinationFeet)
  let actor ← Prog.expect (d.state.combatant actorId) "validated current actor"
  Prog.reject (destinationFeet = actor.positionFeet) (.illegalIntent "movement must change position")
  let requestedFeet := distance actor.positionFeet destinationFeet
  let resources ← Prog.expect d.state.turnResources "active state has resources"
  Prog.reject (requestedFeet > resources.movementRemainingFeet)
    (.insufficientMovement requestedFeet resources.movementRemainingFeet)
  let movementRemainingFeet := resources.movementRemainingFeet - requestedFeet
  let moved := d.update fun s =>
    { s with turnResources := some { resources with movementRemainingFeet } }.updateCombatant actorId
      fun c => { c with positionFeet := destinationFeet }
  let moved ← if actorId = canalWardenId ∧ d.state.schemaVersion = encounterSchemaVersion
    then followHand moved destinationFeet else pure moved
  return (moveNarration actor.name requestedFeet destinationFeet,
    moved.push (.moved actorId actor.positionFeet destinationFeet requestedFeet movementRemainingFeet))

/-! ## Weapon attacks -/

/-- The outcome of an attack roll. -/
def AttackOutcome.ofRoll : RawRollOutcome → Option AttackOutcome
  | .automaticMiss => some .automaticMiss
  | .miss => some .miss
  | .hit => some .hit
  | .criticalHit => some .criticalHit
  | _ => none

def attackRequest (actorId targetId : String) (attack : EncounterAttack) (armorClass : Nat) :
    RollRequest where
  purpose := .attack
  actorId := actorId
  targetId := some targetId
  actionId := some attack.attackId
  diceCount := 1
  sides := 20
  modifiers := attack.attackModifiers
  comparison := some ⟨.armorClass, armorClass⟩

/-- Damage dice; a critical hit throws two. -/
def damageRequest (actorId targetId attackId : String) (critical : Bool) (sides : Nat)
    (modifier : RollModifierFact) : RollRequest where
  purpose := .damage
  actorId := actorId
  targetId := some targetId
  actionId := some attackId
  diceCount := if critical then 2 else 1
  sides := sides
  modifiers := [modifier]
  comparison := none

def damageFact (actorId targetId attackId : String) (damageType : DamageType) (critical : Bool)
    (amount : Nat) (a : DamageApplication) : EncounterFact :=
  .damageApplied actorId targetId attackId damageType critical amount a.temporaryBefore a.temporaryAbsorbed
    a.temporaryAfter a.currentBefore a.currentAfter

/-- Damage to the creature wakes it. -/
def wakeSleepAfterDamage (d : Draft) (targetId : String) (damage : Nat) : Draft :=
  if damage = 0 ∨ targetId ≠ sootWightId ∨ d.state.schemaVersion ≠ encounterSchemaVersion then d
  else match d.state.liveQ04.bind (·.sleep) with
    | some sleep =>
      (d.update fun s => s.clearAsleep.mapLive fun live => { live with sleep := none }).push
        (.sleepEnded sleep.targetId .damaged)
    | none => d

/-- Record a change of life status. -/
def recordLifeChange (d : Draft) (participantId : String) (lifeBefore lifeAfter : LifeStatus)
    (saves : DeathSaves) : Draft :=
  if lifeBefore ≠ lifeAfter then
    d.push (.lifeStatusChanged participantId lifeBefore lifeAfter saves.successes saves.failures)
  else d

def missNarration (outcome : AttackOutcome) (actorName targetName : String) : DeterministicNarration :=
  if outcome = .automaticMiss then
    narration "encounter:attack:natural-one"
      (actorName ++ " overcommits, and " ++ targetName ++ " slips clear.")
      (actorName ++ " misses " ++ targetName ++ " on a natural 1.")
  else
    narration "encounter:attack:miss"
      (actorName ++ "'s strike cuts rain, not " ++ targetName ++ ".")
      (actorName ++ " misses " ++ targetName ++ ".")

def hitNarration (critical : Bool) (actorName targetName : String) (damage : Nat) :
    DeterministicNarration :=
  if critical then
    narration "encounter:attack:critical-hit"
      (actorName ++ " finds the opening and lands a devastating blow on " ++ targetName ++ " for " ++
        toString damage ++ " damage.")
      ("Critical hit: " ++ targetName ++ " takes " ++ toString damage ++ " damage.")
  else
    narration "encounter:attack:hit"
      (actorName ++ " strikes " ++ targetName ++ " for " ++ toString damage ++ " damage.")
      ("Hit: " ++ targetName ++ " takes " ++ toString damage ++ " damage.")

def completionNarration (outcome : EncounterOutcome) (actorName heroName : String) :
    DeterministicNarration :=
  match outcome with
  | .victory =>
    narration "encounter:complete:victory"
      (actorName ++ "'s blow breaks the Soot Wight apart; cleansing water carries the ash away.")
      "The Soot Wight is defeated. The encounter ends in victory."
  | .defeat =>
    narration "encounter:complete:defeat"
      (heroName ++ " falls beneath the viaduct as the encounter closes around them.")
      (heroName ++ " is defeated. The encounter ends with no reward.")

/-- The hit of the creature waits for a hero who can still raise a Shield. -/
def openReaction (d : Draft) (pending : PendingAttackReaction) : Draft :=
  (d.update fun s => s.mapLive fun live => { live with pendingAttackReaction := some pending }).push
    (.attackReactionOpened pending.actorId pending.targetId pending.attackId pending.naturalRoll
      pending.attackTotal pending.armorClass)

/-- The damage of a weapon hit, and what follows from it. -/
def resolveWeaponDamage (d : Draft) (actor target : CombatantState) (actorId targetId : String)
    (attack : EncounterAttack) (critical : Bool) : Rolling EncounterError Resolved := do
  let (roll, rolls) ← performRoll d.rolls
    (damageRequest actorId targetId attack.attackId critical attack.damageDieSides attack.damageModifier)
  Prog.reject (roll.total > maxU16)
    (.invalidState "weapon damage total is outside the encounter range")
  let damage := roll.total.toNat
  let (struck, application) := applyDamage target damage critical d.state.lethalityPolicy
  let d := ((d.withRolls rolls).update (·.updateCombatant targetId fun _ => struck)).push
    (damageFact actorId targetId attack.attackId attack.damageType critical damage application)
  let d := recordLifeChange (wakeSleepAfterDamage d targetId damage) targetId application.lifeBefore
    application.lifeAfter struck.hitPoints.deathSaves
  let (completion, d) := finishForHealthTransition d targetId
  match completion with
  | some outcome => return (completionNarration outcome actor.name (heroNarrativeName d.state), d)
  | none => return (hitNarration critical actor.name target.name damage, d)

/-- Neither a pending reaction nor sleep is looked at here. -/
def resolveAttack (d : Draft) (attackId targetId : String) : Rolling EncounterError Resolved := do
  let actorId ← Prog.lift (requireConsciousActiveActor d.state)
  let attack ← Prog.lift (okOr (attackForActor d.state actorId attackId)
    (.attackUnavailable actorId attackId))
  Prog.reject (targetId ≠ if actorId = canalWardenId then sootWightId else canalWardenId)
    (.invalidTarget actorId targetId)
  let target ← Prog.expect (d.state.combatant targetId) "the fixed target exists"
  Prog.reject (target.lifeStatus = .dead) (.illegalIntent "a dead target cannot be attacked")
  let actor ← Prog.expect (d.state.combatant actorId) "the fixed actor exists"
  let distanceFeet := distance actor.positionFeet target.positionFeet
  Prog.reject (distanceFeet > attack.rangeFeet) (.targetOutOfRange distanceFeet attack.rangeFeet)
  let resources ← Prog.expect d.state.turnResources "active state has resources"
  Prog.reject (resources.actionAvailable = false)
    (.illegalIntent "the current turn's action has already been spent")
  let d := d.update fun s =>
    { s with turnResources := some { resources with actionAvailable := false } }
  Prog.expect (if (target.armorClass : Int) ≤ maxI16 then some () else none) "fixed armor class fits i16"
  let (roll, rolls) ← performRoll d.rolls (attackRequest actorId targetId attack target.armorClass)
  let outcome ← Prog.expect (AttackOutcome.ofRoll roll.outcome)
    "attack roll helper returns an attack outcome"
  let d := (d.withRolls rolls).push (.attackResolved actorId targetId attack.attackId distanceFeet
    attack.rangeFeet target.armorClass roll.total outcome)
  if outcome.isHit = false then
    return (missNarration outcome actor.name target.name, d)
  else if d.state.schemaVersion = encounterSchemaVersion ∧ actorId = sootWightId ∧
      shieldSpellReady d.state then
    let naturalRoll ← Prog.expect roll.naturalD20 "weapon attack roll has a natural d20"
    return (narration "encounter:reaction:shield-window"
      (actor.name ++ "'s claw breaks through " ++ target.name ++
        "'s guard; a heartbeat remains to raise a Shield.")
      "The Soot Wight has hit. Shield or decline the reaction before damage is rolled.",
      openReaction d
        { actorId, targetId, attackId := attack.attackId, naturalRoll, attackTotal := roll.total
          armorClass := target.armorClass, critical := outcome.isCritical })
  else resolveWeaponDamage d actor target actorId targetId attack outcome.isCritical

/-! ## The sluice -/

def resolveContextAction (d : Draft) (actionId : String) : Rolling EncounterError Resolved := do
  let actorId ← Prog.lift (requireConsciousActiveActor d.state)
  Prog.reject (actorId ≠ canalWardenId ∨ actionId ≠ releaseSluiceActionId)
    (.illegalIntent "the context action is unavailable to the current actor")
  Prog.reject (d.state.objectives.contextual.status ≠ .pending)
    (.illegalIntent "the cleansing sluice has already been released")
  Prog.reject (distance d.state.hero.positionFeet d.state.map.sluicePositionFeet >
      d.state.map.contextRangeFeet)
    (.illegalIntent "the Canal Warden is too far from the sluice control")
  let resources ← Prog.expect d.state.turnResources "active state has resources"
  Prog.reject (resources.objectInteractionAvailable = false)
    (.illegalIntent "the current turn's object interaction has already been spent")
  let removedTemporaryHitPoints := d.state.creature.hitPoints.temporary
  let d := d.update fun s =>
    { s with turnResources := some { resources with objectInteractionAvailable := false } }.releaseSluice
  return (narration "encounter:context:release-sluice"
    "The Warden throws the old lever. Canal water lashes through the chamber and tears away the wight's soot veil."
    "The cleansing sluice is released. The Soot Wight loses its temporary hit points.",
    d.push (.contextActionResolved actorId releaseSluiceActionId removedTemporaryHitPoints
      releaseSluiceObjectiveId))

/-! ## End of a turn -/

/-- Neither a pending reaction nor sleep is looked at here. -/
def resolveEndTurn (d : Draft) : Rolling EncounterError Resolved := do
  let _ ← Prog.lift (requireConsciousActiveActor d.state)
  let endedActorId ← Prog.expect d.state.currentActorId "active state has current actor"
  let d ← advanceTurn d
  let nextActorId ← Prog.expect d.state.currentActorId "active state has next actor"
  let endedActor ← Prog.expect (d.state.combatant endedActorId) "ended actor remains present"
  let nextActor ← Prog.expect (d.state.combatant nextActorId) "next actor remains present"
  return (narration "encounter:turn:end"
    (endedActor.name ++ " yields the moment; " ++ nextActor.name ++ " takes the next turn.")
    ("Turn ended. " ++ nextActorId ++ " acts next."), d)

/-! ## Death saves -/

def deathSaveRequest : RollRequest where
  purpose := .deathSave
  actorId := canalWardenId
  targetId := some canalWardenId
  actionId := none
  diceCount := 1
  sides := 20
  modifiers := []
  comparison := some ⟨.deathSaveDifficultyClass, 10⟩

/-- Count the face of a death save. -/
def CombatantState.countDeathSave (c : CombatantState) (natural : Nat) : CombatantState :=
  let saves := c.hitPoints.deathSaves
  if natural = 20 then
    { c with hitPoints := { c.hitPoints with current := 1, deathSaves := {} }, lifeStatus := .conscious }
  else if natural = 1 then
    { c with hitPoints := { c.hitPoints with
        deathSaves := { saves with failures := min (saves.failures + 2) 3 } } }
  else if 10 ≤ natural ∧ natural ≤ 19 then
    { c with hitPoints := { c.hitPoints with
        deathSaves := { saves with successes := min (saves.successes + 1) 3 } } }
  else
    { c with hitPoints := { c.hitPoints with
        deathSaves := { saves with failures := min (saves.failures + 1) 3 } } }

/-- The third failure kills; otherwise the third success stabilizes. -/
def CombatantState.settleDeathSaves (c : CombatantState) : CombatantState :=
  if c.hitPoints.deathSaves.failures = 3 then { c with lifeStatus := .dead }
  else if c.hitPoints.deathSaves.successes = 3 then { c with lifeStatus := .stable }
  else c

/-- The hero after a death save that came up `natural`. -/
def CombatantState.saveDeath (c : CombatantState) (natural : Nat) : CombatantState :=
  (c.countDeathSave natural).settleDeathSaves

/-- Back on one's feet. -/
def naturalTwentyNarration (s : EncounterState) : DeterministicNarration :=
  narration "encounter:death-save:natural-twenty"
    (if s.hero.sourceCharacterId.isNone
      then "The Warden drags in a breath and rises with one last chance to act."
      else heroNarrativeName s ++ " drags in a breath and rises with one last chance to act.")
    ("Natural 20: " ++ heroNarrativeName s ++ " regains 1 hit point.")

def stableNarration : DeterministicNarration :=
  narration "encounter:complete:stable-defeat"
    "The Warden's breathing steadies, but the viaduct is lost for now."
    "Three successful death saves stabilize the hero. The encounter ends with no reward."

def rawDeathNarration : DeterministicNarration :=
  narration "encounter:complete:raw-death"
    "The last echo under the viaduct fades. The Warden does not rise."
    "Three failed death saves kill the hero. The encounter ends with no reward."

def deathSaveNarration (natural : Nat) : DeterministicNarration :=
  if natural = 1 then
    narration "encounter:death-save:natural-one"
      "The Warden's breath catches; the darkness draws much closer."
      "Natural 1: the hero records two failed death saves."
  else if natural ≥ 10 then
    narration "encounter:death-save:success"
      "The Warden holds to a thin, stubborn rhythm of breath."
      "The hero succeeds on a death save."
  else
    narration "encounter:death-save:failure"
      "The Warden lies still as soot settles over the stones."
      "The hero fails a death save."

/-- The draft after a death save that came up `natural`, before anything follows from it. -/
def recordDeathSave (d : Draft) (natural : Nat) : Draft :=
  let before := d.state.hero
  let after := before.saveDeath natural
  recordLifeChange
    ((d.update fun s => { s with hero := after }).push
      (.deathSaveResolved canalWardenId natural before.hitPoints.deathSaves.successes
        after.hitPoints.deathSaves.successes before.hitPoints.deathSaves.failures
        after.hitPoints.deathSaves.failures after.lifeStatus))
    canalWardenId before.lifeStatus after.lifeStatus after.hitPoints.deathSaves

def resolveDeathSave (d : Draft) : Rolling EncounterError Resolved := do
  Prog.reject (d.state.status ≠ .active ∨ d.state.currentActorId ≠ some canalWardenId ∨
      d.state.hero.lifeStatus ≠ .unconscious ∨ d.state.lethalityPolicy ≠ .rulesAsWritten)
    (.illegalIntent "a death save is only legal for the unconscious hero on their turn")
  let (roll, rolls) ← performRoll d.rolls deathSaveRequest
  let natural ← Prog.expect roll.naturalD20 "death save is a d20"
  let d := recordDeathSave (d.withRolls rolls) natural
  match d.state.hero.lifeStatus with
  | .conscious => return (naturalTwentyNarration d.state, d)
  | .stable => return (stableNarration, completeDefeat d .heroStable)
  | .dead => return (rawDeathNarration, completeDefeat d .heroDead)
  | .unconscious =>
    let d ← advanceTurn d
    return (deathSaveNarration natural, d)

/-! ### What a death save does -/

variable {d : Draft} {c : CombatantState} {natural : Nat} {t : List (Nat × Nat)}

theorem saveDeath_changed : HealthChanged c (c.saveDeath natural) := by
  have hcount : HealthChanged c (c.countDeathSave natural) := by
    unfold CombatantState.countDeathSave
    split
    · rfl
    · split
      · rfl
      · split <;> rfl
  have hsettle (c : CombatantState) : HealthChanged c c.settleDeathSaves := by
    unfold CombatantState.settleDeathSaves
    split
    · rfl
    · split <;> rfl
  exact hcount.trans (hsettle _)

/-- Counts that are not both at their limit settle into a valid health. -/
theorem settleDeathSaves_health (hk : c.kind = .hero) (hdown : c.hitPoints.current = 0)
    (hdying : c.lifeStatus = .unconscious) (htemp : c.hitPoints.temporary ≤ c.hitPoints.maximum)
    (hs : c.hitPoints.deathSaves.successes ≤ 3) (hf : c.hitPoints.deathSaves.failures ≤ 3) :
    HealthValid c.settleDeathSaves := by
  have hcurrent : c.hitPoints.current ≤ c.hitPoints.maximum := by omega
  unfold CombatantState.settleDeathSaves
  by_cases hf3 : c.hitPoints.deathSaves.failures = 3
  · rw [if_pos hf3]
    refine ⟨hcurrent, htemp, hs, hf, ?_⟩
    unfold CombatantState.LifeShape
    rw [hk]
    exact ⟨hdown, hf3⟩
  · rw [if_neg hf3]
    by_cases hs3 : c.hitPoints.deathSaves.successes = 3
    · rw [if_pos hs3]
      refine ⟨hcurrent, htemp, hs, hf, ?_⟩
      unfold CombatantState.LifeShape
      rw [hk]
      exact ⟨hdown, hs3⟩
    · rw [if_neg hs3]
      refine ⟨hcurrent, htemp, hs, hf, ?_⟩
      unfold CombatantState.LifeShape
      rw [hk, hdying]
      exact ⟨hdown, by omega, by omega⟩

/-- **A death save keeps a dying hero's health valid**, whichever face comes up. -/
theorem saveDeath_health (hh : HealthValid c) (hk : c.kind = .hero)
    (hdying : c.lifeStatus = .unconscious) (hmax : c.hitPoints.maximum ≠ 0) (natural : Nat) :
    HealthValid (c.saveDeath natural) := by
  have hlife := hh.life
  unfold CombatantState.LifeShape at hlife
  rw [hk, hdying] at hlife
  obtain ⟨hdown, -, -⟩ := hlife
  unfold CombatantState.saveDeath CombatantState.countDeathSave
  by_cases h20 : natural = 20
  · rw [if_pos h20]
    -- the counts are cleared, so nothing is left to settle
    show HealthValid { c with
      hitPoints := { c.hitPoints with current := 1, deathSaves := {} }, lifeStatus := .conscious }
    refine ⟨by show 1 ≤ c.hitPoints.maximum; omega, hh.temporary_le, Nat.zero_le _, Nat.zero_le _, ?_⟩
    unfold CombatantState.LifeShape
    rw [hk]
    exact ⟨Nat.one_ne_zero, rfl⟩
  rw [if_neg h20]
  split
  · exact settleDeathSaves_health hk hdown hdying hh.temporary_le hh.successes_le (Nat.min_le_right _ _)
  · split
    · exact settleDeathSaves_health hk hdown hdying hh.temporary_le (Nat.min_le_right _ _) hh.failures_le
    · exact settleDeathSaves_health hk hdown hdying hh.temporary_le hh.successes_le (Nat.min_le_right _ _)

variable {id : String} {a b : LifeStatus} {saves : DeathSaves} {d' : Draft} {n : DeterministicNarration}

@[simp] theorem recordLifeChange_state :
    (recordLifeChange d id a b saves).state = d.state := by
  unfold recordLifeChange
  split <;> rfl

@[simp] theorem recordLifeChange_rolls :
    (recordLifeChange d id a b saves).rolls = d.rolls := by
  unfold recordLifeChange
  split <;> rfl

theorem recordDeathSave_state :
    (recordDeathSave d natural).state = { d.state with hero := d.state.hero.saveDeath natural } := by
  unfold recordDeathSave
  simp

theorem recordDeathSave_frame :
    Frame d.state (recordDeathSave d natural).state := by
  rw [recordDeathSave_state]
  have hskeleton : (d.state.hero.saveDeath natural).skeleton = d.state.hero.skeleton :=
    saveDeath_changed.skeleton
  unfold Frame EncounterState.skeleton
  simp only [hskeleton]

/-- **The end of a turn** leaves what the turn passed on leaves. -/
theorem resolveEndTurn_returns
    (h : Prog.Returns (resolveEndTurn d) t (n, d')) : ∃ actorId t',
      requireConsciousActiveActor d.state = .ok actorId ∧ Prog.Returns (advanceTurn d) t' d' := by
  obtain ⟨actorId, hactor, h⟩ := h.lift
  obtain ⟨endedActorId, -, h⟩ := h.expect
  obtain ⟨t₁, t₂, passed, rfl, hpass, h⟩ := h.bind
  obtain ⟨nextActorId, -, h⟩ := h.expect
  obtain ⟨endedActor, -, h⟩ := h.expect
  obtain ⟨nextActor, -, h⟩ := h.expect
  obtain rfl : d' = passed := h.snd_eq
  exact ⟨actorId, t₁, hactor, hpass⟩

/-- After its die a death save is recorded, and a defeat completes it or the turn goes on. -/
theorem resolveDeathSave_drafts
    (h : Prog.Returns (resolveDeathSave d) t (n, d')) : ∃ t₁ t₂ roll rolls natural, t = t₁ ++ t₂ ∧
      Prog.Returns (performRoll d.rolls deathSaveRequest) t₁ (roll, rolls) ∧ roll.naturalD20 = some natural ∧
      (t₂ = [] ∧ (d' = recordDeathSave (d.withRolls rolls) natural ∨
          ∃ reason, d' = completeDefeat (recordDeathSave (d.withRolls rolls) natural) reason) ∨
        Prog.Returns (advanceTurn (recordDeathSave (d.withRolls rolls) natural)) t₂ d') := by
  obtain ⟨-, h⟩ := h.reject
  obtain ⟨t₁, t₂, ⟨roll, rolls⟩, rfl, hroll, h⟩ := h.bind
  obtain ⟨natural, hnatural, h⟩ := h.expect
  refine ⟨t₁, t₂, roll, rolls, natural, rfl, hroll, hnatural, ?_⟩
  dsimp only at h
  split at h
  · obtain ⟨rfl, hd⟩ := h.of_ok
    exact .inl ⟨rfl, .inl (congrArg Prod.snd hd)⟩
  · obtain ⟨rfl, hd⟩ := h.of_ok
    exact .inl ⟨rfl, .inr ⟨_, congrArg Prod.snd hd⟩⟩
  · obtain ⟨rfl, hd⟩ := h.of_ok
    exact .inl ⟨rfl, .inr ⟨_, congrArg Prod.snd hd⟩⟩
  · obtain ⟨t₃, t₄, passed, rfl, hpass, h⟩ := h.bind
    obtain ⟨rfl, hd⟩ := h.of_ok
    obtain rfl : d' = passed := congrArg Prod.snd hd
    rw [List.append_nil]
    exact .inr hpass

/-- **A death save is one d20 on the hero's turn, and settles the hero's health by its face.** -/
theorem resolveDeathSave_returns {r : Resolved}
    (h : Prog.Returns (resolveDeathSave d) t r) :
    d.state.status = .active ∧ d.state.currentActorId = some canalWardenId ∧
      d.state.hero.lifeStatus = .unconscious ∧ d.state.lethalityPolicy = .rulesAsWritten ∧
      ∃ natural, t = [(20, natural)] ∧ InRange 20 natural ∧
        r.2.state.hero = d.state.hero.saveDeath natural ∧ Frame d.state r.2.state := by
  obtain ⟨n, d'⟩ := r
  obtain ⟨t₁, t₂, roll, rolls, natural, rfl, hroll, hnat, hends⟩ := resolveDeathSave_drafts h
  obtain ⟨hguard, -⟩ := h.reject
  simp only [not_or, not_not] at hguard
  obtain ⟨hstatus, hturn, hdying, hpolicy⟩ := hguard
  refine ⟨hstatus, hturn, hdying, hpolicy, ?_⟩
  obtain ⟨faces, o, hlen, hin, rfl, -, -, rfl, -, -⟩ := performRoll_returns.mp hroll
  obtain ⟨face, rfl⟩ := List.length_eq_one_iff.mp hlen
  obtain rfl : face = natural := Option.some.inj hnat
  have hstate : (recordDeathSave (d.withRolls rolls) face).state.hero = d.state.hero.saveDeath face := by
    rw [recordDeathSave_state]; rfl
  have hframe : Frame d.state (recordDeathSave (d.withRolls rolls) face).state :=
    recordDeathSave_frame (d := d.withRolls rolls)
  have hdone : t₂ = [] ∧ d'.state.hero = d.state.hero.saveDeath face ∧ Frame d.state d'.state := by
    rcases hends with ⟨rfl, rfl | ⟨reason, rfl⟩⟩ | hpass
    · exact ⟨rfl, hstate, hframe⟩
    · exact ⟨rfl, hstate, hframe.trans completeDefeat_frame⟩
    · obtain ⟨rfl, -, hp⟩ := advanceTurn_returns hpass
      exact ⟨rfl, hp.hero.trans hstate, hframe.trans hp.frame⟩
  obtain ⟨rfl, hhero⟩ := hdone
  exact ⟨face, rfl, hin face (by simp), hhero⟩

end ManchesterArcana.Encounter
