import ManchesterArcana.Encounter.State

/-!
# `Encounter.Validate` — the whole-state check

The envelope, the participants and the shape of each phase, on top of the live runtime of `Encounter.State`.
-/

namespace ManchesterArcana.Encounter

open Effect Rules
open Option (isNone_iff_eq_none isSome_eq_false_iff)
open Bool (not_eq_false not_eq_true)

namespace EncounterState

/-! ## Parts of the check -/

def supportedSchema (version : Nat) : Bool :=
  decide (version = legacyEncounterSchemaVersion) || decide (version = liveV2EncounterSchemaVersion) ||
    decide (version = encounterSchemaVersion)

structure EnvelopeValid (s : EncounterState) : Prop where
  schema : supportedSchema s.schemaVersion = true
  encounterId : s.encounterId = sootWightEncounterId
  rulesetId : s.rulesetId = encounterRulesetId
  contentPackId : s.contentPackId = expectedContentPackId s.schemaVersion
  revision_pos : s.revision ≠ 0
  minimum : s.map.minimumPositionFeet = battlefieldMinFeet
  maximum : s.map.maximumPositionFeet = battlefieldMaxFeet
  sluice : s.map.sluicePositionFeet = sluicePositionFeet
  contextRange : s.map.contextRangeFeet = contextRangeFeet

def validateEnvelope (s : EncounterState) : EncounterResult Unit :=
  rejectIf (supportedSchema s.schemaVersion = false ∨ s.encounterId ≠ sootWightEncounterId ∨
      s.rulesetId ≠ encounterRulesetId ∨ s.contentPackId ≠ expectedContentPackId s.schemaVersion ∨
      s.revision = 0 ∨ s.map.minimumPositionFeet ≠ battlefieldMinFeet ∨
      s.map.maximumPositionFeet ≠ battlefieldMaxFeet ∨ s.map.sluicePositionFeet ≠ sluicePositionFeet ∨
      s.map.contextRangeFeet ≠ contextRangeFeet)
    (.invalidState "schema, fixed content pins, revision, or map is invalid")

/-- What the fixed content pins down about the two participants and the objectives. -/
structure FixedValid (s : EncounterState) : Prop where
  heroId : s.hero.id = canalWardenId
  heroKind : s.hero.kind = .hero
  creatureId : s.creature.id = sootWightId
  creatureKind : s.creature.kind = .creature
  creatureName : s.creature.name = "Soot Wight"
  creatureSource : s.creature.sourceCharacterId = none
  creatureAttacks : s.creature.attacks = []
  creatureArmor : s.creature.armorClass = 12
  creatureSpeed : s.creature.speedFeet = 25
  creatureInitiative : s.creature.initiativeModifier = 1
  creatureMaximum : s.creature.hitPoints.maximum = creatureMaximumHitPoints
  primaryId : s.objectives.primary.objectiveId = defeatSootWightObjectiveId
  contextualId : s.objectives.contextual.objectiveId = releaseSluiceObjectiveId

def validateFixed (s : EncounterState) : EncounterResult Unit :=
  rejectIf (s.hero.id ≠ canalWardenId ∨ s.hero.kind ≠ .hero ∨ s.creature.id ≠ sootWightId ∨
      s.creature.kind ≠ .creature ∨ s.creature.name ≠ "Soot Wight" ∨ s.creature.sourceCharacterId.isSome ∨
      s.creature.attacks ≠ [] ∨ s.creature.armorClass ≠ 12 ∨ s.creature.speedFeet ≠ 25 ∨
      s.creature.initiativeModifier ≠ 1 ∨ s.creature.hitPoints.maximum ≠ creatureMaximumHitPoints ∨
      s.objectives.primary.objectiveId ≠ defeatSootWightObjectiveId ∨
      s.objectives.contextual.objectiveId ≠ releaseSluiceObjectiveId)
    (.invalidState "fixed participants or objectives are invalid")

/-- The statistics of the fixed Canal Warden that legacy saves use. -/
structure LegacyHero (c : CombatantState) : Prop where
  name : c.name = "Canal Warden"
  armorClass : c.armorClass = 18
  speed : c.speedFeet = 30
  initiative : c.initiativeModifier = 2
  maximum : c.hitPoints.maximum = heroMaximumHitPoints
  attacks : c.attacks = []

/-- Either the fixed Canal Warden or a hero with a snapshot of its attacks. -/
def HeroIdentityValid (s : EncounterState) : Prop :=
  match s.hero.sourceCharacterId with
  | none => LegacyHero s.hero
  | some _ => s.hero.kind = .hero ∧ s.hero.attacks ≠ []

def validateHeroIdentity (s : EncounterState) : EncounterResult Unit :=
  match s.hero.sourceCharacterId with
  | none => rejectIf (¬ (s.hero.name = "Canal Warden" ∧ s.hero.armorClass = 18 ∧ s.hero.speedFeet = 30 ∧
      s.hero.initiativeModifier = 2 ∧ s.hero.hitPoints.maximum = heroMaximumHitPoints ∧ s.hero.attacks = []))
      (.invalidState "hero must be the legacy Canal Warden or an authoritative combat snapshot")
  | some _ => rejectIf (s.hero.heroProfileFieldsValid = false)
      (.invalidState "hero must be the legacy Canal Warden or an authoritative combat snapshot")

structure RulesValid (s : EncounterState) (p : EncounterHeroRulesProfile) : Prop where
  source : s.hero.sourceCharacterId.isSome = true
  rules : p.Valid
  constitution : s.schemaVersion = encounterSchemaVersion → p.constitutionModifier.isSome = true

def validateHeroRules (s : EncounterState) : EncounterResult Unit :=
  match s.heroRules with
  | some rules => do
    rejectIf (s.hero.sourceCharacterId.isNone)
      (.invalidState "legacy fixed heroes cannot carry a created-hero rules snapshot")
    rules.validate
    rejectIf (s.schemaVersion = encounterSchemaVersion ∧ rules.constitutionModifier.isNone)
      (.invalidState "schema-v3 hero rules require a constitution modifier")
  | none => .ok ()

def hasRuneWard (s : EncounterState) : Bool :=
  decide (CombatantStatusEffect.runeWard ∈ s.hero.statusEffects)

def hasSootVeil (s : EncounterState) : Bool :=
  decide (CombatantStatusEffect.sootVeil ∈ s.creature.statusEffects)

/-- The opening consequence and the sluice objective against the effects they leave. -/
structure EffectsValid (s : EncounterState) : Prop where
  ward : s.hasRuneWard = decide (s.openingConsequence = .runesUnderstood)
  notFailed : s.objectives.contextual.status ≠ .failed
  veil : s.objectives.contextual.status = .pending → s.hasSootVeil = true
  unveiled : s.objectives.contextual.status = .completed →
    s.hasSootVeil = false ∧ s.creature.hitPoints.temporary = 0

def validateEffects (s : EncounterState) : EncounterResult Unit := do
  rejectIf (s.hasRuneWard ≠ decide (s.openingConsequence = .runesUnderstood) ∨
      s.objectives.contextual.status = .failed)
    (.invalidState "opening consequence or contextual objective state is invalid")
  match s.objectives.contextual.status with
  | .pending =>
    rejectIf (s.hasSootVeil = false) (.invalidState "a pending sluice objective requires the soot veil")
  | .completed =>
    rejectIf (s.hasSootVeil ∨ s.creature.hitPoints.temporary ≠ 0)
      (.invalidState "a completed sluice objective must remove the soot veil")
  | .failed => return ()

def validateInitiative (s : EncounterState) : EncounterResult Unit :=
  match s.initiative with
  | some i => i.validate s.hero.initiativeModifier s.creature.initiativeModifier
  | none => .ok ()

/-! ## Phases -/

/-- Temporary hit points of hero and creature that the opening consequence grants. -/
def openingTemporary : OpeningConsequence → Nat × Nat
  | .runesUnderstood => (2, 2)
  | .runesMisread => (0, 4)

structure ReadyValid (s : EncounterState) : Prop where
  initiative : s.initiative = none
  round : s.round = 0
  actorIndex : s.currentActorIndex = none
  actorId : s.currentActorId = none
  resources : s.turnResources = none
  primary : s.objectives.primary.status = .pending
  contextual : s.objectives.contextual.status = .pending
  reward : s.rewardEligibility = .pending
  transition : s.transition = none
  heroLife : s.hero.lifeStatus = .conscious
  creatureLife : s.creature.lifeStatus = .conscious
  heroFull : s.hero.hitPoints.current = s.hero.hitPoints.maximum
  creatureFull : s.creature.hitPoints.current = s.creature.hitPoints.maximum
  heroTemporary : s.hero.hitPoints.temporary = (openingTemporary s.openingConsequence).1
  creatureTemporary : s.creature.hitPoints.temporary = (openingTemporary s.openingConsequence).2

def validateReady (s : EncounterState) : EncounterResult Unit :=
  rejectIf (s.initiative.isSome ∨ s.round ≠ 0 ∨ s.currentActorIndex.isSome ∨ s.currentActorId.isSome ∨
      s.turnResources.isSome ∨ s.objectives.primary.status ≠ .pending ∨
      s.objectives.contextual.status ≠ .pending ∨ s.rewardEligibility ≠ .pending ∨ s.transition.isSome ∨
      s.hero.lifeStatus ≠ .conscious ∨ s.creature.lifeStatus ≠ .conscious ∨
      s.hero.hitPoints.current ≠ s.hero.hitPoints.maximum ∨
      s.creature.hitPoints.current ≠ s.creature.hitPoints.maximum ∨
      s.hero.hitPoints.temporary ≠ (openingTemporary s.openingConsequence).1 ∨
      s.creature.hitPoints.temporary ≠ (openingTemporary s.openingConsequence).2)
    (.invalidState "a ready encounter contains active or completed state")

/-- Only the hero's unspent Second Wind puts a bonus action into play. -/
def bonusActionReachable (s : EncounterState) : Bool :=
  decide (s.currentActorId = some canalWardenId) &&
    s.heroRules.any fun rules => rules.runtimeResources.secondWind.any (·.current > 0)

structure ActiveValid (s : EncounterState) : Prop where
  order : ∃ i index, s.initiative = some i ∧ s.currentActorIndex = some index ∧
    i.order[index]? = s.currentActorId
  round_pos : s.round ≠ 0
  actor : ∃ actor, s.currentActor = some actor ∧
    ∃ r, s.turnResources = some r ∧ r.movementRemainingFeet ≤ actor.speedFeet ∧
      5 ∣ r.movementRemainingFeet ∧
      (r.bonusActionAvailable = true → s.bonusActionReachable = true) ∧
      r.reactionAvailable = true ∧
      (r.objectInteractionAvailable = false → s.currentActorId = some canalWardenId ∧
        s.objectives.contextual.status = .completed)
  creatureLife : s.creature.lifeStatus = .conscious
  heroLife : s.hero.lifeStatus = .conscious ∨ s.hero.lifeStatus = .unconscious
  primary : s.objectives.primary.status = .pending
  reward : s.rewardEligibility = .pending
  transition : s.transition = none

def validateActive (s : EncounterState) : EncounterResult Unit := do
  let initiative ← okOr s.initiative (.invalidState "an active encounter requires initiative")
  let index ← okOr s.currentActorIndex
    (.invalidState "an active encounter requires a current actor index")
  rejectIf (s.round = 0 ∨ initiative.order[index]? ≠ s.currentActorId ∨ s.currentActor.isNone ∨
      s.creature.lifeStatus ≠ .conscious ∨
      (s.hero.lifeStatus ≠ .conscious ∧ s.hero.lifeStatus ≠ .unconscious) ∨
      s.objectives.primary.status ≠ .pending ∨ s.rewardEligibility ≠ .pending ∨ s.transition.isSome)
    (.invalidState "active round, actor, objective, reward, or transition is invalid")
  let resources ← okOr s.turnResources (.invalidState "an active encounter requires turn resources")
  -- the current actor was checked to be present just above
  rejectIf (s.currentActor.any fun actor => resources.movementRemainingFeet > actor.speedFeet)
    (.invalidState "remaining movement exceeds the current actor's speed")
  rejectIf (¬ 5 ∣ resources.movementRemainingFeet ∨
      (resources.bonusActionAvailable ∧ s.bonusActionReachable = false) ∨
      resources.reactionAvailable = false ∨
      (resources.objectInteractionAvailable = false ∧
        (s.currentActorId ≠ some canalWardenId ∨ s.objectives.contextual.status ≠ .completed)))
    (.invalidState "turn resources are not reachable in the fixed encounter")

/-- A phase that has ended has no actor and no turn. -/
structure EndedValid (s : EncounterState) : Prop where
  initiative : s.initiative ≠ none
  actorIndex : s.currentActorIndex = none
  actorId : s.currentActorId = none
  resources : s.turnResources = none

structure VictoryValid (s : EncounterState) (t : ExplorationTransition) : Prop extends EndedValid s where
  creatureLife : s.creature.lifeStatus = .dead
  creatureDown : s.creature.hitPoints.current = 0
  primary : s.objectives.primary.status = .completed
  reward : ∃ tier, s.rewardEligibility = .eligible tier
  outcome : t.outcome = .victory
  reason : t.defeatReason = none
  heroCurrent : t.heroCurrentHitPoints = s.hero.hitPoints.current
  heroLife : t.heroLifeStatus = s.hero.lifeStatus
  noRecovery : t.storyRecoveryApplied = false
  conscious : s.hero.lifeStatus = .conscious
  destination : t.destinationId = explorationDestinationId

def validateTransitionDestination (t : ExplorationTransition) : EncounterResult Unit :=
  rejectIf (t.destinationId ≠ explorationDestinationId)
    (.invalidState "exploration transition destination is invalid")

def isEligible : RewardEligibility → Bool
  | .eligible _ => true
  | _ => false

def validateVictory (s : EncounterState) : EncounterResult Unit := do
  let t ← okOr s.transition (.invalidState "victory requires an exploration transition")
  rejectIf (s.initiative.isNone ∨ s.currentActorIndex.isSome ∨ s.currentActorId.isSome ∨
      s.turnResources.isSome ∨ s.creature.lifeStatus ≠ .dead ∨ s.creature.hitPoints.current ≠ 0 ∨
      s.objectives.primary.status ≠ .completed ∨ isEligible s.rewardEligibility = false ∨
      t.outcome ≠ .victory ∨ t.defeatReason.isSome ∨ t.heroCurrentHitPoints ≠ s.hero.hitPoints.current ∨
      t.heroLifeStatus ≠ s.hero.lifeStatus ∨ t.storyRecoveryApplied ∨ s.hero.lifeStatus ≠ .conscious)
    (.invalidState "victory completion, reward, or transition is invalid")
  validateTransitionDestination t

/-- Whether the story recovery after a defeat has been entered by resting. -/
def recoveryEntered (s : EncounterState) : Bool :=
  decide (s.schemaVersion = encounterSchemaVersion) && s.liveQ04.any (·.campaignTimeMinutes > 0)

/-- The hero's health after a defeat, by policy. -/
def DefeatHealth (s : EncounterState) (t : ExplorationTransition) : Prop :=
  match s.lethalityPolicy, s.recoveryEntered with
  | .storyRecovery, true => s.hero.lifeStatus = .conscious ∧ s.hero.hitPoints.current ≠ 0 ∧
      t.heroCurrentHitPoints = s.hero.hitPoints.current ∧ t.heroLifeStatus = s.hero.lifeStatus ∧
      t.storyRecoveryApplied = true
  | .storyRecovery, false => s.hero.lifeStatus = .unconscious ∧ s.hero.hitPoints.current = 0 ∧
      t.heroCurrentHitPoints = 1 ∧ t.heroLifeStatus = .conscious ∧ t.storyRecoveryApplied = true
  | .rulesAsWritten, _ => (s.hero.lifeStatus = .stable ∨ s.hero.lifeStatus = .dead) ∧
      t.heroCurrentHitPoints = s.hero.hitPoints.current ∧ t.heroLifeStatus = s.hero.lifeStatus ∧
      t.storyRecoveryApplied = false

structure DefeatValid (s : EncounterState) (t : ExplorationTransition) : Prop extends EndedValid s where
  primary : s.objectives.primary.status = .failed
  reward : s.rewardEligibility = .ineligible .encounterDefeat
  outcome : t.outcome = .defeat
  reason : t.defeatReason ≠ none
  health : DefeatHealth s t
  destination : t.destinationId = explorationDestinationId

def isIneligible : RewardEligibility → Bool
  | .ineligible .encounterDefeat => true
  | _ => false

def validateDefeatHealth (s : EncounterState) (t : ExplorationTransition) : EncounterResult Unit :=
  match s.lethalityPolicy with
  | .storyRecovery =>
    if s.recoveryEntered then
      rejectIf (s.hero.lifeStatus ≠ .conscious ∨ s.hero.hitPoints.current = 0 ∨
          t.heroCurrentHitPoints ≠ s.hero.hitPoints.current ∨ t.heroLifeStatus ≠ s.hero.lifeStatus ∨
          t.storyRecoveryApplied = false)
        (.invalidState "post-defeat story recovery runtime is invalid")
    else
      rejectIf (s.hero.lifeStatus ≠ .unconscious ∨ s.hero.hitPoints.current ≠ 0 ∨
          t.heroCurrentHitPoints ≠ 1 ∨ t.heroLifeStatus ≠ .conscious ∨ t.storyRecoveryApplied = false)
        (.invalidState "story recovery must preserve defeat and prepare a 1 HP hero")
  | .rulesAsWritten =>
    rejectIf ((s.hero.lifeStatus ≠ .stable ∧ s.hero.lifeStatus ≠ .dead) ∨
        t.heroCurrentHitPoints ≠ s.hero.hitPoints.current ∨ t.heroLifeStatus ≠ s.hero.lifeStatus ∨
        t.storyRecoveryApplied)
      (.invalidState "rules-as-written defeat must preserve the terminal health state")

def validateDefeat (s : EncounterState) : EncounterResult Unit := do
  let t ← okOr s.transition (.invalidState "defeat requires an exploration transition")
  rejectIf (s.initiative.isNone ∨ s.currentActorIndex.isSome ∨ s.currentActorId.isSome ∨
      s.turnResources.isSome ∨ s.objectives.primary.status ≠ .failed ∨
      isIneligible s.rewardEligibility = false ∨ t.outcome ≠ .defeat ∨ t.defeatReason.isNone)
    (.invalidState "defeat completion, reward, or transition is invalid")
  validateDefeatHealth s t
  validateTransitionDestination t

def validatePhase (s : EncounterState) : EncounterResult Unit :=
  match s.status with
  | .ready => s.validateReady
  | .active => s.validateActive
  | .victory => s.validateVictory
  | .defeat => s.validateDefeat

/-- The shape of the phase the encounter is in. -/
def PhaseValid (s : EncounterState) : Prop :=
  match s.status with
  | .ready => ReadyValid s
  | .active => ActiveValid s
  | .victory => ∃ t, s.transition = some t ∧ VictoryValid s t
  | .defeat => ∃ t, s.transition = some t ∧ DefeatValid s t

/-! ## The check -/

/-- The runtime of the live schema is required exactly there. -/
def validateRuntime (s : EncounterState) : EncounterResult Unit :=
  if s.schemaVersion = encounterSchemaVersion then s.validateLiveQ04
  else rejectIf (s.liveQ04.isSome)
    (.invalidState "historical encounter state cannot contain schema-v3 live state")

def validate (s : EncounterState) : EncounterResult Unit := do
  s.validateEnvelope
  rejectIf (s.schemaVersion = legacyEncounterSchemaVersion ∧ s.heroRules.isSome)
    (.invalidState "legacy encounter state cannot contain a Slice 2 hero rules snapshot")
  s.validateRuntime
  s.validateFixed
  s.validateHeroIdentity
  s.validateHeroRules
  s.hero.validate s.map
  s.creature.validate s.map
  s.validateEffects
  s.validateInitiative
  s.validatePhase

/-- **A valid encounter state.** -/
structure Valid (s : EncounterState) : Prop where
  envelope : EnvelopeValid s
  legacyRules : s.schemaVersion = legacyEncounterSchemaVersion → s.heroRules = none
  live : s.schemaVersion = encounterSchemaVersion → ∃ live, s.liveQ04 = some live ∧ LiveValid s live
  noLive : s.schemaVersion ≠ encounterSchemaVersion → s.liveQ04 = none
  fixed : FixedValid s
  heroIdentity : HeroIdentityValid s
  rules : ∀ rules ∈ s.heroRules, RulesValid s rules
  hero : s.hero.Valid s.map
  creature : s.creature.Valid s.map
  effects : EffectsValid s
  initiative : ∀ i ∈ s.initiative, i.Valid s.hero.initiativeModifier s.creature.initiativeModifier
  phase : PhaseValid s

/-! ### Each part decides its structure -/

variable {s : EncounterState}

theorem validateEnvelope_eq_ok : s.validateEnvelope = .ok () ↔ EnvelopeValid s := by
  simp only [validateEnvelope, rejectIf_eq_ok, not_or, not_not, not_eq_false]
  exact ⟨fun ⟨h₁, h₂, h₃, h₄, h₅, h₆, h₇, h₈, h₉⟩ => ⟨h₁, h₂, h₃, h₄, h₅, h₆, h₇, h₈, h₉⟩,
    fun hv => ⟨hv.schema, hv.encounterId, hv.rulesetId, hv.contentPackId, hv.revision_pos, hv.minimum,
      hv.maximum, hv.sluice, hv.contextRange⟩⟩

theorem validateFixed_eq_ok : s.validateFixed = .ok () ↔ FixedValid s := by
  simp only [validateFixed, rejectIf_eq_ok, not_or, not_not, not_eq_true, isSome_eq_false_iff,
    isNone_iff_eq_none]
  exact ⟨fun ⟨h₁, h₂, h₃, h₄, h₅, h₆, h₇, h₈, h₉, h₁₀, h₁₁, h₁₂, h₁₃⟩ =>
      ⟨h₁, h₂, h₃, h₄, h₅, h₆, h₇, h₈, h₉, h₁₀, h₁₁, h₁₂, h₁₃⟩,
    fun hv => ⟨hv.heroId, hv.heroKind, hv.creatureId, hv.creatureKind, hv.creatureName, hv.creatureSource,
      hv.creatureAttacks, hv.creatureArmor, hv.creatureSpeed, hv.creatureInitiative, hv.creatureMaximum,
      hv.primaryId, hv.contextualId⟩⟩

theorem validateHeroIdentity_eq_ok :
    s.validateHeroIdentity = .ok () ↔ HeroIdentityValid s := by
  unfold validateHeroIdentity HeroIdentityValid
  rcases hsrc : s.hero.sourceCharacterId with _ | id
  · simp only [rejectIf_eq_ok, not_not]
    exact ⟨fun ⟨h₁, h₂, h₃, h₄, h₅, h₆⟩ => ⟨h₁, h₂, h₃, h₄, h₅, h₆⟩,
      fun hv => ⟨hv.name, hv.armorClass, hv.speed, hv.initiative, hv.maximum, hv.attacks⟩⟩
  · simp [CombatantState.heroProfileFieldsValid, hsrc]

theorem validateHeroRules_eq_ok :
    s.validateHeroRules = .ok () ↔ ∀ rules ∈ s.heroRules, RulesValid s rules := by
  unfold validateHeroRules
  rcases s.heroRules with _ | rules
  · simp
  · simp only [seq_eq_ok, rejectIf_eq_ok, EncounterHeroRulesProfile.validate_eq_ok, not_and,
      not_eq_true, Option.isNone_eq_false_iff]
    constructor
    · rintro ⟨hsrc, hr, hc⟩ _ hm
      obtain rfl := Option.mem_some.mp hm
      exact ⟨hsrc, hr, hc⟩
    · intro h
      have hv := h rules rfl
      exact ⟨hv.source, hv.rules, hv.constitution⟩

theorem validateEffects_eq_ok : s.validateEffects = .ok () ↔ EffectsValid s := by
  simp only [validateEffects, seq_eq_ok, rejectIf_eq_ok, not_or, not_not]
  constructor
  · rintro ⟨⟨hw, hf⟩, hm⟩
    refine ⟨hw, hf, fun hp => ?_, fun hc => ?_⟩
    · rw [hp] at hm; simpa using hm
    · rw [hc] at hm; simpa [not_or] using hm
  · intro hv
    refine ⟨⟨hv.ward, hv.notFailed⟩, ?_⟩
    cases hc : s.objectives.contextual.status with
    | pending => simpa using hv.veil hc
    | completed => simpa [not_or] using hv.unveiled hc
    | failed => rfl

theorem validateInitiative_eq_ok : s.validateInitiative = .ok () ↔
    ∀ i ∈ s.initiative, i.Valid s.hero.initiativeModifier s.creature.initiativeModifier := by
  unfold validateInitiative
  rcases s.initiative with _ | i <;> simp [InitiativeState.validate_eq_ok]

theorem validateReady_eq_ok : s.validateReady = .ok () ↔ ReadyValid s := by
  simp only [validateReady, rejectIf_eq_ok, not_or, not_not, not_eq_true, isSome_eq_false_iff,
    isNone_iff_eq_none]
  exact ⟨fun ⟨h₁, h₂, h₃, h₄, h₅, h₆, h₇, h₈, h₉, h₁₀, h₁₁, h₁₂, h₁₃, h₁₄, h₁₅⟩ =>
      ⟨h₁, h₂, h₃, h₄, h₅, h₆, h₇, h₈, h₉, h₁₀, h₁₁, h₁₂, h₁₃, h₁₄, h₁₅⟩,
    fun hv => ⟨hv.initiative, hv.round, hv.actorIndex, hv.actorId, hv.resources, hv.primary, hv.contextual,
      hv.reward, hv.transition, hv.heroLife, hv.creatureLife, hv.heroFull, hv.creatureFull,
      hv.heroTemporary, hv.creatureTemporary⟩⟩

theorem validateActive_eq_ok : s.validateActive = .ok () ↔ ActiveValid s := by
  simp only [validateActive, bind_eq_ok, exists_unit, okOr_eq_ok, rejectIf_eq_ok, not_or, not_not, not_eq_true,
    isNone_iff_eq_none, not_eq_false, ← Option.ne_none_iff_isSome]
  constructor
  · rintro ⟨i, hi, index, hx, ⟨hr, ho, ha, hc, hh, hp, hw, ht⟩, r, hres, hmove, hgrid, hb, hre, hobj⟩
    obtain ⟨actor, hactor⟩ := Option.ne_none_iff_exists'.mp ha
    refine ⟨⟨i, index, hi, hx, ho⟩, hr, ⟨actor, hactor, r, hres, ?_, hgrid, ?_, hre, ?_⟩, hc, ?_, hp, hw, ht⟩
    · rw [hactor] at hmove; simpa using hmove
    · intro hbonus
      by_contra hne
      exact hb ⟨hbonus, by simpa using hne⟩
    · intro hno
      by_contra hne
      refine hobj ⟨hno, ?_⟩
      by_contra hcon
      rw [not_or, not_not, not_not] at hcon
      exact hne hcon
    · by_contra hne
      rw [not_or] at hne
      exact hh hne
  · intro hv
    obtain ⟨i, index, hi, hx, ho⟩ := hv.order
    obtain ⟨actor, hactor, r, hres, hmove, hgrid, hb, hre, hobj⟩ := hv.actor
    refine ⟨i, hi, index, hx, ⟨hv.round_pos, ho, by rw [hactor]; exact Option.some_ne_none _, hv.creatureLife, ?_, hv.primary,
      hv.reward, hv.transition⟩, r, hres, ?_, hgrid, ?_, hre, ?_⟩
    · rintro ⟨h₁, h₂⟩
      exact hv.heroLife.elim h₁ h₂
    · rw [hactor]; simpa using hmove
    · rintro ⟨h₁, h₂⟩
      rw [hb h₁] at h₂
      exact absurd h₂ (by decide)
    · rintro ⟨h₁, h₂⟩
      obtain ⟨ha, hc⟩ := hobj h₁
      exact h₂.elim (fun h => h ha) (fun h => h hc)

theorem isEligible_iff {r : RewardEligibility} : isEligible r = true ↔ ∃ tier, r = .eligible tier := by
  cases r <;> simp [isEligible]

theorem isIneligible_iff {r : RewardEligibility} :
    isIneligible r = true ↔ r = .ineligible .encounterDefeat := by
  rcases r with _ | _ | ⟨⟨⟩⟩ <;> simp [isIneligible]

theorem validateVictory_eq_ok :
    s.validateVictory = .ok () ↔ ∃ t, s.transition = some t ∧ VictoryValid s t := by
  simp only [validateVictory, bind_eq_ok, exists_unit, okOr_eq_ok, rejectIf_eq_ok, validateTransitionDestination, not_or, not_not,
    not_eq_true, not_eq_false, isSome_eq_false_iff, isNone_iff_eq_none, isEligible_iff]
  refine exists_congr fun t => and_congr_right fun _ => ⟨?_, ?_⟩
  · rintro ⟨⟨h₁, h₂, h₃, h₄, h₅, h₆, h₇, h₈, h₉, h₁₀, h₁₁, h₁₂, h₁₃, h₁₄⟩, h₁₅⟩
    exact ⟨⟨h₁, h₂, h₃, h₄⟩, h₅, h₆, h₇, h₈, h₉, h₁₀, h₁₁, h₁₂, h₁₃, h₁₄, h₁₅⟩
  · intro hv
    exact ⟨⟨hv.initiative, hv.actorIndex, hv.actorId, hv.resources, hv.creatureLife, hv.creatureDown,
      hv.primary, hv.reward, hv.outcome, hv.reason, hv.heroCurrent, hv.heroLife, hv.noRecovery,
      hv.conscious⟩, hv.destination⟩

theorem validateDefeatHealth_eq_ok {t : ExplorationTransition} :
    validateDefeatHealth s t = .ok () ↔ DefeatHealth s t := by
  unfold validateDefeatHealth DefeatHealth
  cases s.lethalityPolicy with
  | storyRecovery =>
    cases s.recoveryEntered <;> simp [not_or]
  | rulesAsWritten =>
    simp only [rejectIf_eq_ok, not_or, not_and_or, not_not, not_eq_true]

theorem validateDefeat_eq_ok :
    s.validateDefeat = .ok () ↔ ∃ t, s.transition = some t ∧ DefeatValid s t := by
  simp only [validateDefeat, bind_eq_ok, exists_unit, okOr_eq_ok, rejectIf_eq_ok, validateTransitionDestination,
    validateDefeatHealth_eq_ok, not_or, not_not, not_eq_true, not_eq_false,
    isSome_eq_false_iff, isNone_iff_eq_none, isIneligible_iff]
  refine exists_congr fun t => and_congr_right fun _ => ⟨?_, ?_⟩
  · rintro ⟨⟨h₁, h₂, h₃, h₄, h₅, h₆, h₇, h₈⟩, h₉, h₁₀⟩
    exact ⟨⟨h₁, h₂, h₃, h₄⟩, h₅, h₆, h₇, h₈, h₉, h₁₀⟩
  · intro hv
    exact ⟨⟨hv.initiative, hv.actorIndex, hv.actorId, hv.resources, hv.primary, hv.reward, hv.outcome,
      hv.reason⟩, hv.health, hv.destination⟩

theorem validatePhase_eq_ok : s.validatePhase = .ok () ↔ PhaseValid s := by
  unfold validatePhase PhaseValid
  cases s.status with
  | ready => exact validateReady_eq_ok
  | active => exact validateActive_eq_ok
  | victory => exact validateVictory_eq_ok
  | defeat => exact validateDefeat_eq_ok

theorem validateRuntime_eq_ok {s : EncounterState} : s.validateRuntime = .ok () ↔
    (s.schemaVersion = encounterSchemaVersion → ∃ live, s.liveQ04 = some live ∧ LiveValid s live) ∧
      (s.schemaVersion ≠ encounterSchemaVersion → s.liveQ04 = none) := by
  unfold validateRuntime
  by_cases h3 : s.schemaVersion = encounterSchemaVersion
  · rw [if_pos h3, validateLiveQ04_eq_ok]
    exact ⟨fun h => ⟨fun _ => h, fun hne => absurd h3 hne⟩, fun h => h.1 h3⟩
  · rw [if_neg h3, rejectIf_eq_ok, not_eq_true, isSome_eq_false_iff, isNone_iff_eq_none]
    exact ⟨fun h => ⟨fun he => absurd he h3, fun _ => h⟩, fun h => h.2 h3⟩

/-- **The engine's check accepts exactly the valid states.** -/
theorem validate_eq_ok : s.validate = .ok () ↔ s.Valid := by
  simp only [validate, seq_eq_ok, rejectIf_eq_ok, validateEnvelope_eq_ok, validateRuntime_eq_ok,
    validateFixed_eq_ok, validateHeroIdentity_eq_ok, validateHeroRules_eq_ok,
    CombatantState.validate_eq_ok, validateEffects_eq_ok, validateInitiative_eq_ok, validatePhase_eq_ok,
    not_and, not_eq_true, isSome_eq_false_iff, isNone_iff_eq_none]
  constructor
  · rintro ⟨h₁, h₂, ⟨h₃, h₃'⟩, h₄, h₅, h₆, h₇, h₈, h₉, h₁₀, h₁₁⟩
    exact ⟨h₁, h₂, h₃, h₃', h₄, h₅, h₆, h₇, h₈, h₉, h₁₀, h₁₁⟩
  · intro hv
    exact ⟨hv.envelope, hv.legacyRules, ⟨hv.live, hv.noLive⟩, hv.fixed, hv.heroIdentity, hv.rules, hv.hero,
      hv.creature, hv.effects, hv.initiative, hv.phase⟩

end EncounterState

end ManchesterArcana.Encounter
