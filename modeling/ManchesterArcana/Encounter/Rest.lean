import ManchesterArcana.Encounter.Reaction

/-!
# `Encounter.Rest` — resting at the boundary after the encounter

Once the encounter is over the hero may rest: a short rest of an hour in which hit dice are spent one by one,
or a long rest of eight. Time is the trusted campaign clock of the live runtime; nothing else advances it.
-/

namespace ManchesterArcana.Encounter

open Effect Rules

/-! ## The hero's health, back and forth -/

def recoveryHealth (s : EncounterState) : HealthState where
  maximum := s.hero.hitPoints.maximum
  current := s.hero.hitPoints.current
  temporary := s.hero.hitPoints.temporary
  vitalStatus :=
    if s.hero.lifeStatus = .dead then .dead
    else if s.hero.hitPoints.current = 0 then .dying
    else .active
  deathSaves := ⟨s.hero.hitPoints.deathSaves.successes, s.hero.hitPoints.deathSaves.failures⟩

/-- The life status of a vital status. -/
def LifeStatus.ofVital : VitalStatus → LifeStatus
  | .active => .conscious
  | .dying => .unconscious
  | .stable => .stable
  | .dead => .dead

/-- The hero with the hit points and life of a health record. -/
def CombatantState.withHealth (c : CombatantState) (health : HealthState) : CombatantState :=
  { c with
    hitPoints := { c.hitPoints with
      current := health.current
      temporary := health.temporary
      deathSaves := ⟨health.deathSaves.successes, health.deathSaves.failures⟩ }
    lifeStatus := .ofVital health.vitalStatus }

namespace EncounterState

/-- Whether the encounter is over. -/
def isOver (s : EncounterState) : Bool := decide (s.status = .victory) || decide (s.status = .defeat)

/-- Write a health record to the hero, and to the transition of an encounter that is over. -/
def applyRecoveryHealth (s : EncounterState) (health : HealthState) : EncounterState :=
  let hero := s.hero.withHealth health
  { s with
    hero
    transition := if s.isOver then s.transition.map fun transition =>
        { transition with
          heroCurrentHitPoints := hero.hitPoints.current
          heroLifeStatus := hero.lifeStatus }
      else s.transition }

/-- After a defeat under story recovery the hero gets up with what the transition promised. -/
def applyStoryRecoveryBoundary (s : EncounterState) : EncounterResult EncounterState :=
  if s.status = .defeat ∧ s.lethalityPolicy = .storyRecovery ∧ s.hero.lifeStatus = .unconscious then do
    let transition ← okOr s.transition (.invalidState "story recovery defeat is missing its transition")
    return { s with hero := { s.hero with
      hitPoints := { s.hero.hitPoints with current := transition.heroCurrentHitPoints, deathSaves := {} }
      lifeStatus := transition.heroLifeStatus } }
  else .ok s

end EncounterState

/-- Light, hand and sleep end when a rest begins. -/
def EncounterLiveQ04State.expire (live : EncounterLiveQ04State) : EncounterLiveQ04State :=
  { live with
    objects := live.objects.map fun o => { o with lightRemainingRounds := none }
    mageHand := none
    mageHandPositionFeet := if live.mageHand.isSome then none else live.mageHandPositionFeet
    sleep := none }

/-- What is recorded about it. -/
def expiryFacts (live : EncounterLiveQ04State) : List EncounterFact :=
  ((live.objects.filter (·.lightRemainingRounds.isSome)).map fun o => .lightExpired o.objectId) ++
  (live.mageHand.toList.map fun hand => .mageHandExpired hand.handId) ++
  (live.sleep.toList.map fun sleep => .sleepEnded sleep.targetId .durationExpired)

/-- End the timed effects; `f` goes on with the live runtime. -/
def expireEffectsForRest (d : Draft) (live : EncounterLiveQ04State)
    (f : EncounterLiveQ04State → EncounterLiveQ04State) : Draft :=
  { d with
    state := { (if live.sleep.isSome then d.state.clearAsleep else d.state) with
      liveQ04 := some (f live.expire) }
    facts := d.facts ++ expiryFacts live }

/-- The campaign clock after `minutes`. -/
def completionMinute (startedAt minutes : Nat) : EncounterResult Nat := do
  rejectIf (startedAt + minutes > maxU64) (.invalidState "trusted campaign time overflowed")
  return startedAt + minutes

/-! ## Short rest -/

def resolveBeginShortRest (d : Draft) : Rolling EncounterError Resolved := do
  Prog.lift (requireLegal d.state .beginShortRest "a short rest is not legal at this boundary")
  let state ← Prog.lift d.state.applyStoryRecoveryBoundary
  let live ← Prog.expect state.liveQ04 "schema-v3 state has live Q04 state"
  let completesAt ← Prog.lift (completionMinute live.campaignTimeMinutes shortRestMinutes)
  let resting := expireEffectsForRest { d with state } live fun live => { live with
    campaignTimeMinutes := completesAt
    activeShortRest := some
      { boundaryId := postEncounterRestBoundaryId
        startedAtCampaignMinute := live.campaignTimeMinutes
        completesAtCampaignMinute := completesAt
        hitDiceSpent := 0
        arcaneRecoveryUsed := false } }
  return (narration "encounter:rest:short-start"
    "The aftermath is secured. An hour passes beneath the viaduct while the hero binds their wounds."
    "A trusted 60-minute short-rest boundary is active; confirm each hit die separately.",
    resting.push (.restStarted canalWardenId .short postEncounterRestBoundaryId live.campaignTimeMinutes
      completesAt))

def hitDieRoll (sequence : Nat) (resolution : HitDieSpendResolution) (sides : Nat) : RawRollFacts where
  sequence := sequence
  purpose := .hitDie
  actorId := canalWardenId
  targetId := some canalWardenId
  actionId := some hitDieActionId
  expression := diceExpression 1 sides resolution.constitutionModifier.toInt
  mode := .normal
  individualDice := [⟨sides, resolution.roll⟩]
  keptDieIndices := [0]
  modifiers := [⟨"srd-5.1-cc:modifier:constitution", resolution.constitutionModifier.toInt16⟩]
  naturalD20 := none
  total := resolution.roll + resolution.constitutionModifier.toInt
  comparison := none
  outcome := .total

/-- The sides of the hit die that was spent. -/
def spentDieSides : ResourceKind → Option Nat
  | .hitDiceD6 => some 6
  | .hitDiceD10 => some 10
  | _ => none

/-- Rewrite the short rest under way. -/
def EncounterLiveQ04State.updateRest (live : EncounterLiveQ04State) (f : ShortRestState → ShortRestState) :
    EncounterLiveQ04State :=
  { live with activeShortRest := live.activeShortRest.map f }

def resolveSpendHitDie (d : Draft) : Rolling EncounterError Resolved := do
  Prog.lift (requireLegal d.state .spendHitDie "one hit die cannot be spent now")
  let rules ← Prog.lift (liveRules d.state)
  let constitutionModifier ← Prog.lift (okOr rules.constitutionModifier
    (.invalidState "schema-v3 rest snapshot lacks constitution"))
  let (resolution, runtime, health) ←
    (spendHitDie rules.runtimeResources (recoveryHealth d.state) constitutionModifier).mapErr fun e =>
      mapRulesResolutionError e.1
  let sides ← Prog.expect (spentDieSides resolution.hitDie)
    "validated hit-die resolution has a hit-die resource"
  let rolled := d.pushRoll fun sequence => hitDieRoll sequence resolution sides
  let live ← Prog.expect d.state.liveQ04 "schema-v3 state has live Q04 state"
  let rest ← Prog.expect live.activeShortRest "legal hit-die spend has an active rest"
  -- the counter is a byte
  Prog.expect (if rest.hitDiceSpent + 1 ≤ maxU8 then some () else none) "attempt to add with overflow"
  let healed := rolled.update fun s => { s.applyRecoveryHealth health with
    heroRules := some { rules with runtimeResources := runtime }
    liveQ04 := some (live.updateRest fun rest => { rest with hitDiceSpent := rest.hitDiceSpent + 1 }) }
  return (narration "encounter:rest:hit-die"
    ("The hero commits one hit die and recovers " ++ toString resolution.hitPointsRecovered ++
      " hit points.")
    ("Hit die " ++ toString resolution.roll ++ " plus Constitution " ++ toString constitutionModifier ++
      " recovered " ++ toString resolution.hitPointsRecovered ++ " hit points."),
    healed.push (.hitDieSpent canalWardenId resolution.hitDie resolution.roll constitutionModifier
      resolution.healingTotal resolution.hitPointsRecovered rules.runtimeResources.hitDice.current
      runtime.hitDice.current))

/-- The benefits of the hour itself; hit dice are spent one by one before. -/
def completeShortRest (s : EncounterState) (rules : EncounterHeroRulesProfile) (useArcaneRecovery : Bool) :
    Rolling EncounterError (RestResolution × RuntimeResources × HealthState) := do
  let constitutionModifier ← Prog.expect rules.constitutionModifier "v3 rules include constitution"
  (takeShortRest rules.runtimeResources (recoveryHealth s) constitutionModifier
    { hitDiceToSpend := 0, useArcaneRecovery }).mapErr fun e => mapRulesResolutionError e.1

def resolveArcaneRecovery (d : Draft) : Rolling EncounterError Resolved := do
  Prog.lift (requireLegal d.state .useArcaneRecovery
    "Arcane Recovery is not legal during this short rest")
  let rules ← Prog.lift (liveRules d.state)
  let slotsBefore ← Prog.expect rules.runtimeResources.levelOneSpellSlots
    "legal Arcane Recovery has spell slots"
  let recoveryBefore ← Prog.expect rules.runtimeResources.arcaneRecovery
    "legal Arcane Recovery has its resource"
  let (_, runtime, _) ← completeShortRest d.state rules true
  let slotsAfter ← Prog.expect runtime.levelOneSpellSlots "wizard rest preserves spell slots"
  let recoveryAfter ← Prog.expect runtime.arcaneRecovery "wizard rest preserves Arcane Recovery"
  let live ← Prog.expect d.state.liveQ04 "schema-v3 state has live Q04 state"
  let _ ← Prog.expect live.activeShortRest "legal Arcane Recovery has an active rest"
  let recovered := d.update fun s => { s with
    heroRules := some { rules with runtimeResources := runtime }
    liveQ04 := some (live.updateRest fun rest => { rest with arcaneRecoveryUsed := true }) }
  return (narration "encounter:rest:arcane-recovery"
    "The wizard reconstructs one spent pattern from the quiet geometry of the runes."
    "Arcane Recovery restores one level-one spell slot.",
    recovered.push (.arcaneRecoveryApplied canalWardenId slotsBefore.current slotsAfter.current
      recoveryBefore.current recoveryAfter.current))

def resolveFinishShortRest (d : Draft) : Rolling EncounterError Resolved := do
  Prog.lift (requireLegal d.state .finishShortRest "there is no active short rest to finish")
  let rest ← Prog.expect (d.state.liveQ04.bind (·.activeShortRest)) "legal finish has an active rest"
  let rules ← Prog.lift (liveRules d.state)
  let (resolution, runtime, health) ← completeShortRest d.state rules false
  let live ← Prog.expect d.state.liveQ04 "schema-v3 state has live Q04 state"
  let finished := d.update fun s => { s.applyRecoveryHealth health with
    heroRules := some { rules with runtimeResources := runtime }
    liveQ04 := some { live with activeShortRest := none } }
  return (narration "encounter:rest:short-complete"
    "The hour closes with gear reset and breath steadied; the hero chooses to move on."
    "Short rest completed. No additional hit die is spent automatically.",
    finished.push (.restCompleted canalWardenId .short rest.boundaryId rest.completesAtCampaignMinute
      resolution.hitPointsRecovered 0 0))

/-! ## Long rest -/

def resolveLongRest (d : Draft) : Rolling EncounterError Resolved := do
  Prog.lift (requireLegal d.state .takeLongRest
    "a long rest is unavailable under the once-per-24-hours boundary policy")
  let state ← Prog.lift d.state.applyStoryRecoveryBoundary
  let live ← Prog.expect state.liveQ04 "schema-v3 state has live Q04 state"
  let completesAt ← Prog.lift (completionMinute live.campaignTimeMinutes longRestMinutes)
  let rules ← Prog.lift (liveRules state)
  let (resolution, runtime, health) ← Prog.lift
    ((takeLongRest rules.runtimeResources (recoveryHealth state)).mapError fun e =>
      mapRulesResolutionError e.1)
  let expired := expireEffectsForRest { d with state } live fun live => { live with
    campaignTimeMinutes := completesAt
    lastLongRestCompletedAtCampaignMinute := some completesAt }
  let rested := expired.update fun s => { s.applyRecoveryHealth health with
    heroRules := some { rules with runtimeResources := runtime } }
  return (narration "encounter:rest:long-complete"
    "Eight guarded hours pass. At their end, the hero rises fully restored."
    "Long rest completed after 480 trusted campaign minutes; another requires 24 hours.",
    (rested.push (.restStarted canalWardenId .long postEncounterRestBoundaryId live.campaignTimeMinutes
      completesAt)).push
      (.restCompleted canalWardenId .long postEncounterRestBoundaryId completesAt
        resolution.hitPointsRecovered resolution.hitDiceRecovered resolution.spellSlotsRecovered))

end ManchesterArcana.Encounter
