import ManchesterArcana.Encounter.Casting

/-!
# `Encounter.Reaction` — the answer to a hit of the creature

A hit of the creature that a Shield could still turn aside waits for the hero. Shield is cast with the
hero's reaction and may negate it; declining, or a Shield that comes too late, lets the damage through.
-/

namespace ManchesterArcana.Encounter

open Effect Rules

/-- The damage of the hit that was waiting. -/
def resolvePendingAttackDamage (d : Draft) (pending : PendingAttackReaction) :
    Rolling EncounterError (Option EncounterOutcome × Draft) := do
  let (roll, rolls) ← performRoll d.rolls
    (damageRequest pending.actorId pending.targetId pending.attackId pending.critical
      creatureAttack.damageDieSides creatureAttack.damageModifier)
  Prog.reject (roll.total > maxU16)
    (.invalidState "pending attack damage total is outside the encounter range")
  let damage := roll.total.toNat
  let (struck, application) := applyDamage d.state.hero damage pending.critical d.state.lethalityPolicy
  let d := ((d.withRolls rolls).update fun s => { s with hero := struck }).push
    (damageFact pending.actorId pending.targetId pending.attackId creatureAttack.damageType
      pending.critical damage application)
  return finishForHealthTransition
    (recordLifeChange d canalWardenId application.lifeBefore application.lifeAfter struck.hitPoints.deathSaves)
    canalWardenId

/-- The hit that waits for the hero's reaction. -/
def EncounterState.pendingHit (s : EncounterState) : Option PendingAttackReaction :=
  s.liveQ04.bind (·.pendingAttackReaction)

/-! ## Shield -/

/-- The reaction of the hero, outside of their own turn. -/
def reactionEconomy (live : EncounterLiveQ04State) : ActionEconomy :=
  { ActionEconomy.new 0 with reactionAvailable := live.heroReactionAvailable }

def shieldTrigger (pending : PendingAttackReaction) : EncounterResult ShieldTrigger := do
  rejectIf (pending.armorClass > maxU8)
    (.invalidState "pending Shield armor class is outside the rules range")
  rejectIf (¬ (minI16 ≤ pending.attackTotal ∧ pending.attackTotal ≤ maxI16))
    (.invalidState "pending Shield attack total is outside the rules range")
  return .attackHit pending.naturalRoll pending.attackTotal pending.armorClass

/-- Bonus, negation and immunity of the first ward among the effects. -/
def shieldWardOf (effects : List SpellEffect) : Option (Nat × Bool × Bool) :=
  effects.findSome? fun
    | .shieldWard armorClassBonus negatesTriggeringAttack immuneToMagicMissile true =>
      some (armorClassBonus, negatesTriggeringAttack, immuneToMagicMissile)
    | _ => none

/-- The ward is up, the reaction spent and the hit no longer waiting. -/
def raiseWard (live : EncounterLiveQ04State) (armorClassBonus : Nat) (immuneToMagicMissile : Bool) :
    EncounterLiveQ04State :=
  { live with
    pendingAttackReaction := none
    heroReactionAvailable := false
    shieldWard := some
      { casterId := canalWardenId, armorClassBonus, immuneToMagicMissile, expiry := .startOfCasterTurn } }

def shieldNegatesNarration : DeterministicNarration :=
  narration "encounter:spell:shield-negates-hit"
    "A pane of force snaps into being and turns the claw aside before it can bite."
    "Shield negates the pending hit; no damage roll is made."

def shieldPiercedNarration (critical : Bool) : DeterministicNarration :=
  if critical then
    narration "encounter:spell:shield-natural-twenty"
      "The ward flares, but the wight's perfect strike punches through it."
      "Shield cannot negate the natural-20 hit; damage is applied."
  else
    narration "encounter:spell:shield-hit-persists"
      "The ward rises, but the claw was already driven too deep to turn aside."
      "Shield is active, but the triggering hit still deals damage."

def resolveShieldReaction (d : Draft) : Rolling EncounterError Resolved := do
  Prog.lift (requireLegal d.state .castShield "Shield is not available for a real pending hit")
  let pending ← Prog.expect d.state.pendingHit "legal Shield has a pending hit"
  let rules ← Prog.lift (liveRules d.state)
  let spellcasting ← Prog.lift (liveSpellcasting rules)
  let slotsBefore ← Prog.lift (okOr (spellSlotCount rules.runtimeResources)
    (.invalidState "wizard spell slots are absent"))
  let trigger ← Prog.lift (shieldTrigger pending)
  let live ← Prog.expect d.state.liveQ04 "schema-v3 state has live Q04 state"
  let (resolution, runtime, _) ← castSupportedSpell rules spellcasting (reactionEconomy live) (.shield trigger)
  let (armorClassBonus, negatedTrigger, immuneToMagicMissile) ← Prog.lift
    (okOr (shieldWardOf resolution.effects) (.invalidState "Shield resolver omitted its ward effect"))
  let slotsAfter ← Prog.expect (spellSlotCount runtime) "wizard slots remain present"
  -- the turn is the creature's: its resources stay, only the hero's pools are written back
  let warded := ((d.update fun s => { s with
      liveQ04 := some (raiseWard live armorClassBonus immuneToMagicMissile)
      heroRules := some { rules with runtimeResources := runtime } }).push
    (.spellCastResolved canalWardenId canalWardenId .shield (some slotsBefore) (some slotsAfter) 0)).push
    (.shieldResolved canalWardenId pending.attackId pending.naturalRoll pending.attackTotal
      pending.armorClass (pending.armorClass + armorClassBonus) negatedTrigger slotsBefore slotsAfter)
  if negatedTrigger then return (shieldNegatesNarration, warded)
  else
    let (completion, struck) ← resolvePendingAttackDamage warded pending
    return (shieldPiercedNarration pending.critical,
      if completion.isSome then struck.update (·.mapLive fun live => { live with shieldWard := none })
      else struck)

/-! ## Declining -/

def declineNarration (completion : Option EncounterOutcome) : DeterministicNarration :=
  if completion = some .defeat then
    narration "encounter:reaction:decline-defeat"
      "The claw lands without a ward between it and the hero; the viaduct goes dark."
      "Shield was declined. The pending hit defeats the hero."
  else
    narration "encounter:reaction:decline"
      "The moment for a ward passes, and the soot-claw lands."
      "Shield was declined. The pending hit deals damage."

def resolveDeclineReaction (d : Draft) : Rolling EncounterError Resolved := do
  Prog.lift (requireLegal d.state .declineReaction "there is no pending reaction to decline")
  let pending ← Prog.expect d.state.pendingHit "legal decline has a pending hit"
  let declined := (d.update (·.mapLive fun live => { live with pendingAttackReaction := none })).push
    (.attackReactionDeclined canalWardenId pending.attackId)
  let (completion, struck) ← resolvePendingAttackDamage declined pending
  return (declineNarration completion, struck)

end ManchesterArcana.Encounter
