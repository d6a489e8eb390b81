import ManchesterArcana.Encounter.Health

/-!
# `Encounter.Preserve` — what is left to check about a framed successor

Most of `EncounterState.Valid` speaks about what the frame carries. `Valid.of_frame` says so once: a
successor of a valid state that is framed by it is valid as soon as its moving parts are — the two
combatants' positions, health and effects, the contents of the pools, the live runtime, and the phase.
-/

namespace ManchesterArcana.Encounter

open Effect Rules

/-- The moving parts of a valid combatant. -/
structure CombatantState.Sound (c : CombatantState) (map : EncounterMap) : Prop where
  position_ge : map.minimumPositionFeet ≤ c.positionFeet
  position_le : c.positionFeet ≤ map.maximumPositionFeet
  position_grid : 5 ∣ c.positionFeet
  health : HealthValid c
  effects_nodup : c.statusEffects.Nodup

namespace CombatantState

variable {c c' : CombatantState} {map : EncounterMap}

theorem Valid.sound (hv : c.Valid map) : c.Sound map :=
  ⟨hv.position_ge, hv.position_le, hv.position_grid, hv.health, hv.effects_nodup⟩

/-- A combatant of a valid one's skeleton is valid when its moving parts are. -/
theorem Valid.of_skeleton (hv : c.Valid map) (h : c'.skeleton = c.skeleton) (hs : c'.Sound map) :
    c'.Valid map := by
  have hget {β : Type} (f : CombatantState → β) : f c'.skeleton = f c.skeleton := congrArg f h
  have hid : c'.id = c.id := hget (·.id)
  have hname : c'.name = c.name := hget (·.name)
  have hkind : c'.kind = c.kind := hget (·.kind)
  have hsource : c'.sourceCharacterId = c.sourceCharacterId := hget (·.sourceCharacterId)
  have harmor : c'.armorClass = c.armorClass := hget (·.armorClass)
  have hspeed : c'.speedFeet = c.speedFeet := hget (·.speedFeet)
  have hattacks : c'.attacks = c.attacks := hget (·.attacks)
  have hmaximum : c'.hitPoints.maximum = c.hitPoints.maximum := hget (·.hitPoints.maximum)
  exact
    { id := by rw [hid]; exact hv.id
      name_ne := by rw [hname]; exact hv.name_ne
      name_le := by rw [hname]; exact hv.name_le
      sourceCharacterId := by rw [hsource]; exact hv.sourceCharacterId
      armorClass := by rw [harmor]; exact hv.armorClass
      speed_pos := by rw [hspeed]; exact hv.speed_pos
      position_ge := hs.position_ge
      position_le := hs.position_le
      position_grid := hs.position_grid
      maximum_pos := by rw [hmaximum]; exact hv.maximum_pos
      current_le := hs.health.current_le
      temporary_le := hs.health.temporary_le
      successes_le := hs.health.successes_le
      failures_le := hs.health.failures_le
      attacks_le := by rw [hattacks]; exact hv.attacks_le
      attacks_nodup := by rw [hattacks]; exact hv.attacks_nodup
      attacks := by rw [hattacks]; exact hv.attacks
      effects_nodup := hs.effects_nodup
      life := hs.health.life
      creature := by rw [hkind, hsource, hattacks]; exact hv.creature }

end CombatantState

namespace EncounterState

variable {s s' : EncounterState}

/-- A property of the skeleton carries over the frame. -/
theorem EnvelopeValid.of_frame (hv : EnvelopeValid s) (h : Frame s s') : EnvelopeValid s' := by
  have hs : EnvelopeValid s.skeleton := ⟨hv.schema, hv.encounterId, hv.rulesetId, hv.contentPackId,
    hv.revision_pos, hv.minimum, hv.maximum, hv.sluice, hv.contextRange⟩
  rw [← h] at hs
  exact ⟨hs.schema, hs.encounterId, hs.rulesetId, hs.contentPackId, hs.revision_pos, hs.minimum, hs.maximum,
    hs.sluice, hs.contextRange⟩

theorem FixedValid.of_frame (hv : FixedValid s) (h : Frame s s') : FixedValid s' := by
  have hs : FixedValid s.skeleton := ⟨hv.heroId, hv.heroKind, hv.creatureId, hv.creatureKind,
    hv.creatureName, hv.creatureSource, hv.creatureAttacks, hv.creatureArmor, hv.creatureSpeed,
    hv.creatureInitiative, hv.creatureMaximum, hv.primaryId, hv.contextualId⟩
  rw [← h] at hs
  exact ⟨hs.heroId, hs.heroKind, hs.creatureId, hs.creatureKind, hs.creatureName, hs.creatureSource,
    hs.creatureAttacks, hs.creatureArmor, hs.creatureSpeed, hs.creatureInitiative, hs.creatureMaximum,
    hs.primaryId, hs.contextualId⟩

theorem HeroIdentityValid.of_frame (hv : HeroIdentityValid s) (h : Frame s s') : HeroIdentityValid s' := by
  have hiff (s : EncounterState) : HeroIdentityValid s.skeleton ↔ HeroIdentityValid s := by
    unfold HeroIdentityValid
    have hsource : s.skeleton.hero.sourceCharacterId = s.hero.sourceCharacterId := rfl
    rw [hsource]
    cases s.hero.sourceCharacterId with
    | none =>
      exact ⟨fun hl => ⟨hl.name, hl.armorClass, hl.speed, hl.initiative, hl.maximum, hl.attacks⟩,
        fun hl => ⟨hl.name, hl.armorClass, hl.speed, hl.initiative, hl.maximum, hl.attacks⟩⟩
    | some _ => exact Iff.rfl
  rw [← hiff, h, hiff]
  exact hv

/-- A snapshot of a framed state is valid when the contents of its pools are. -/
theorem RulesValid.of_frame (hv : ∀ rules ∈ s.heroRules, RulesValid s rules) (h : Frame s s')
    (hpools : ∀ rules ∈ s'.heroRules, rules.runtimeResources.Valid) :
    ∀ rules ∈ s'.heroRules, RulesValid s' rules := by
  intro rules' hr'
  have hmap := h.rules
  rw [Option.mem_def.mp hr'] at hmap
  cases hr : s.heroRules with
  | none => rw [hr] at hmap; cases hmap
  | some rules =>
    rw [hr] at hmap
    have hskeleton : rules'.skeleton = rules.skeleton := Option.some.inj hmap
    have hget {β : Type} (f : EncounterHeroRulesProfile → β) : f rules'.skeleton = f rules.skeleton :=
      congrArg f hskeleton
    have hspell : rules'.spellcasting = rules.spellcasting := hget (·.spellcasting)
    have hcon : rules'.constitutionModifier = rules.constitutionModifier := hget (·.constitutionModifier)
    have hclass : rules'.runtimeResources.heroClass = rules.runtimeResources.heroClass :=
      hget (·.runtimeResources.heroClass)
    have hsource : s'.hero.sourceCharacterId = s.hero.sourceCharacterId := by
      show s'.hero.skeleton.sourceCharacterId = s.hero.skeleton.sourceCharacterId
      rw [h.hero]
    have hrv := hv rules hr
    refine ⟨by rw [hsource]; exact hrv.source, ⟨hpools rules' hr', ?_, ?_⟩, ?_⟩
    · rw [hcon]; exact hrv.rules.constitution
    · unfold EncounterHeroRulesProfile.CastingShape
      rw [hclass, hspell]
      exact hrv.rules.casting
    · rw [h.schemaVersion, hcon]; exact hrv.constitution

/-- What has to be checked about a framed successor. -/
structure Moved (s' : EncounterState) : Prop where
  hero : s'.hero.Sound s'.map
  creature : s'.creature.Sound s'.map
  pools : ∀ rules ∈ s'.heroRules, rules.runtimeResources.Valid
  live : s'.schemaVersion = encounterSchemaVersion → ∃ live, s'.liveQ04 = some live ∧ LiveValid s' live
  noLive : s'.schemaVersion ≠ encounterSchemaVersion → s'.liveQ04 = none
  effects : EffectsValid s'
  initiative : ∀ i ∈ s'.initiative, i.Valid s'.hero.initiativeModifier s'.creature.initiativeModifier
  phase : PhaseValid s'

/-- **A framed successor of a valid state is valid when its moving parts are.** -/
theorem Valid.of_frame (hv : s.Valid) (h : Frame s s') (hm : Moved s') : s'.Valid where
  envelope := hv.envelope.of_frame h
  legacyRules := by
    intro h1
    rw [h.schemaVersion] at h1
    have hmap := h.rules
    rw [hv.legacyRules h1] at hmap
    exact Option.map_eq_none_iff.mp hmap
  live := hm.live
  noLive := hm.noLive
  fixed := hv.fixed.of_frame h
  heroIdentity := hv.heroIdentity.of_frame h
  rules := RulesValid.of_frame hv.rules h hm.pools
  hero := by
    have hhero := hv.hero
    rw [← h.map] at hhero
    exact hhero.of_skeleton h.hero hm.hero
  creature := by
    have hcreature := hv.creature
    rw [← h.map] at hcreature
    exact hcreature.of_skeleton h.creature hm.creature
  effects := hm.effects
  initiative := hm.initiative
  phase := hm.phase

theorem Valid.moved (hv : s.Valid) : Moved s :=
  ⟨hv.hero.sound, hv.creature.sound, fun rules hr => (hv.rules rules hr).rules.resources, hv.live, hv.noLive,
    hv.effects, hv.initiative, hv.phase⟩

/-- A new revision does not change what else is checked. -/
theorem Valid.withRevision (hv : s.Valid) {n : Nat} (hn : n ≠ 0) : { s with revision := n }.Valid where
  envelope := ⟨hv.envelope.schema, hv.envelope.encounterId, hv.envelope.rulesetId, hv.envelope.contentPackId,
    hn, hv.envelope.minimum, hv.envelope.maximum, hv.envelope.sluice, hv.envelope.contextRange⟩
  legacyRules := hv.legacyRules
  live := ((@validateRuntime_eq_ok { s with revision := n }).mp
    (show s.validateRuntime = .ok () from validateRuntime_eq_ok.mpr ⟨hv.live, hv.noLive⟩)).1
  noLive := hv.noLive
  fixed := validateFixed_eq_ok.mp (show s.validateFixed = .ok () from validateFixed_eq_ok.mpr hv.fixed)
  heroIdentity := hv.heroIdentity
  rules := validateHeroRules_eq_ok.mp (show s.validateHeroRules = .ok () from
    validateHeroRules_eq_ok.mpr hv.rules)
  hero := hv.hero
  creature := hv.creature
  effects := validateEffects_eq_ok.mp (show s.validateEffects = .ok () from
    validateEffects_eq_ok.mpr hv.effects)
  initiative := hv.initiative
  phase := validatePhase_eq_ok.mp (show s.validatePhase = .ok () from validatePhase_eq_ok.mpr hv.phase)

/-! ## Within one turn -/

/-- The encounter goes on, and the turn is the same. -/
structure SameTurn (s s' : EncounterState) : Prop where
  status : s'.status = s.status
  initiative : s'.initiative = s.initiative
  round : s'.round = s.round
  actorIndex : s'.currentActorIndex = s.currentActorIndex
  actorId : s'.currentActorId = s.currentActorId
  primary : s'.objectives.primary.status = s.objectives.primary.status
  reward : s'.rewardEligibility = s.rewardEligibility
  transition : s'.transition = s.transition

/-- Turn resources of an actor that are left over from `r`. -/
structure LeftOf (s' : EncounterState) (r r' : TurnResources) : Prop where
  movement : r'.movementRemainingFeet ≤ r.movementRemainingFeet
  grid : 5 ∣ r'.movementRemainingFeet
  bonusAction : r'.bonusActionAvailable = true → s'.bonusActionReachable = true
  reaction : r'.reactionAvailable = true
  objectInteraction : r'.objectInteractionAvailable = false →
    s'.currentActorId = some canalWardenId ∧ s'.objectives.contextual.status = .completed

variable {r r' : TurnResources}

/-- **Within one turn the active shape is kept** as long as both combatants stay in the fight and the
    resources are left over from the ones before. -/
theorem ActiveValid.step (hv : ActiveValid s) (hf : Frame s s') (ht : SameTurn s s')
    (hcreature : s'.creature.lifeStatus = .conscious)
    (hhero : s'.hero.lifeStatus = .conscious ∨ s'.hero.lifeStatus = .unconscious)
    (hr : s.turnResources = some r) (hr' : s'.turnResources = some r') (hleft : LeftOf s' r r') :
    ActiveValid s' := by
  obtain ⟨i, index, hi, hindex, horder⟩ := hv.order
  refine ⟨⟨i, index, ht.initiative.trans hi, ht.actorIndex.trans hindex, horder.trans ht.actorId.symm⟩, ?_, ?_,
    hcreature, hhero, ht.primary.trans hv.primary, ht.reward.trans hv.reward,
    ht.transition.trans hv.transition⟩
  · rw [ht.round]
    exact hv.round_pos
  · obtain ⟨actor, hactor, r₀, hr₀, hmove, -, -, -, -⟩ := hv.actor
    obtain rfl : r₀ = r := Option.mem_unique hr₀ hr
    have hspeed {c c' : CombatantState} (h : c'.skeleton = c.skeleton) : c'.speedFeet = c.speedFeet := by
      show c'.skeleton.speedFeet = c.skeleton.speedFeet
      rw [h]
    have hcurrent : ∃ actor', s'.currentActor = some actor' ∧ actor'.speedFeet = actor.speedFeet := by
      unfold currentActor at hactor ⊢
      rw [ht.actorId]
      by_cases hh : s.currentActorId = some canalWardenId
      · rw [if_pos hh] at hactor ⊢
        obtain rfl := Option.some.inj hactor
        exact ⟨_, rfl, hspeed hf.hero⟩
      · rw [if_neg hh] at hactor ⊢
        by_cases hc : s.currentActorId = some sootWightId
        · rw [if_pos hc] at hactor ⊢
          obtain rfl := Option.some.inj hactor
          exact ⟨_, rfl, hspeed hf.creature⟩
        · rw [if_neg hc] at hactor
          cases hactor
    obtain ⟨actor', hactor', hsame⟩ := hcurrent
    exact ⟨actor', hactor', r', hr', by rw [hsame]; exact hleft.movement.trans hmove, hleft.grid,
      hleft.bonusAction, hleft.reaction, hleft.objectInteraction⟩

/-- The same resources are left over from themselves. -/
theorem ActiveValid.leftOf (hv : ActiveValid s) (hr : s.turnResources = some r) :
    LeftOf s r r := by
  obtain ⟨actor, -, r₀, hr₀, -, hgrid, hbonus, hreaction, hobject⟩ := hv.actor
  obtain rfl : r₀ = r := Option.mem_unique hr₀ hr
  exact ⟨le_rfl, hgrid, hbonus, hreaction, hobject⟩

/-! ### The live runtime, part by part -/

theorem HandValid.step {hand : MageHandState} {position : Nat} (h : HandValid s hand position)
    (hmap : s'.map = s.map) (hpos : s'.hero.positionFeet = s.hero.positionFeet) : HandValid s' hand position :=
  ⟨h.hand, h.handId, h.casterId, by rw [hmap]; exact h.position_ge, by rw [hmap]; exact h.position_le,
    h.position_grid, by rw [hpos]; exact h.distance⟩

theorem SleepValid.step {sleep : EncounterSleepState} (h : SleepValid s sleep)
    (hasleep : s'.creatureAsleep = s.creatureAsleep) (hlife : s'.creature.lifeStatus = .conscious) :
    SleepValid s' sleep :=
  ⟨h.targetId, h.rounds, hasleep.trans h.asleep, hlife⟩

theorem WardValid.step {ward : ShieldWardState} (h : WardValid s ward) (ht : SameTurn s s') :
    WardValid s' ward :=
  ⟨h.casterId, h.bonus, h.immune, ht.status.trans h.status, ht.actorId.trans h.turn⟩

/-- The hit that waits only asks that the action stays spent. -/
theorem PendingValid.step {live live' : EncounterLiveQ04State} {p : PendingAttackReaction}
    (h : PendingValid s live p) (ht : SameTurn s s') (harmor : s'.hero.armorClass = s.hero.armorClass)
    (hward : live'.shieldWard = live.shieldWard) (hr' : s'.turnResources = some r')
    (hspent : r'.actionAvailable = false) : PendingValid s' live' p :=
  ⟨⟨r', hr', hspent⟩, ht.status.trans h.status, ht.actorId.trans h.turn, h.actorId, h.targetId, h.attackId,
    h.natural, h.natural_ne_one, h.hits, h.armorClass.trans harmor.symm, h.critical, hward.trans h.noWard⟩

theorem not_safe_of_active (hs : s.status = .active) : s.isSafeRestBoundary = false := by
  unfold isSafeRestBoundary
  rw [hs]
  rfl

/-- Nobody rests while the encounter is active. -/
theorem LiveValid.noRest {live : EncounterLiveQ04State} (hv : LiveValid s live) (hs : s.status = .active) :
    live.activeShortRest = none := by
  cases hrest : live.activeShortRest with
  | none => rfl
  | some rest =>
    have := (hv.rest rest hrest).boundary
    rw [not_safe_of_active hs] at this
    cases this

end EncounterState

end ManchesterArcana.Encounter
