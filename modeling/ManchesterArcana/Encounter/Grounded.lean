import ManchesterArcana.Encounter.Passing
import ManchesterArcana.Encounter.Resolve

/-!
# `Encounter.Grounded` — what holds along every run, and how a step keeps it

The engine's check lets through states that no run reaches: a hero lying unconscious under story recovery in
an encounter that goes on, a ward over an unspent action, a short rest with more hit dice spent than there
ever were. `Grounded` rules them out. A resolver has settled an intent when what it made can be sealed and is
grounded again (`Settled`), and most of that is the same for every change within a turn (`Stepped`).
-/

namespace ManchesterArcana.Encounter

open Effect Rules

/-- Damage that the first schema version does not know. -/
def DamageType.isSliceTwo (damageType : DamageType) : Bool :=
  decide (damageType = .fire) || decide (damageType = .force)

/-- **What holds along every run**, beyond what the engine checks. -/
structure Grounded (s : EncounterState) : Prop where
  speed : 5 ∣ s.hero.speedFeet
  armor : s.hero.armorClass ≤ 30
  arsenal : s.schemaVersion = legacyEncounterSchemaVersion →
    ∀ attack ∈ s.hero.attacks, attack.damageType.isSliceTwo = false
  dying : s.status = .active → s.hero.lifeStatus = .unconscious → s.lethalityPolicy = .rulesAsWritten
  clock : s.status = .active ∨ s.status = .ready → ∀ live ∈ s.liveQ04, live.campaignTimeMinutes = 0
  warded : ∀ live ∈ s.liveQ04, live.shieldWard.isSome = true →
    ∀ r ∈ s.turnResources, r.actionAvailable = false
  total : ∀ live ∈ s.liveQ04, ∀ p ∈ live.pendingAttackReaction,
    minI16 ≤ p.attackTotal ∧ p.attackTotal ≤ maxI16
  spent : ∀ live ∈ s.liveQ04, ∀ rest ∈ live.activeShortRest, ∀ rules ∈ s.heroRules,
    rest.hitDiceSpent + rules.runtimeResources.hitDice.current ≤ rules.runtimeResources.hitDice.maximum

/-- **An intent is settled**: what its resolver made can be sealed, and is grounded again. -/
structure Settled (s : EncounterState) (r : Resolved) : Prop where
  sealable : Sealable s r.1 r.2
  grounded : Grounded r.2.state

/-- What a frame leaves to check of a grounded state. -/
theorem Grounded.of_frame {s s' : EncounterState} (hg : Grounded s) (hf : Frame s s')
    (hdying : s'.status = .active → s'.hero.lifeStatus = .unconscious → s.lethalityPolicy = .rulesAsWritten)
    (hclock : s'.status = .active ∨ s'.status = .ready → ∀ live ∈ s'.liveQ04, live.campaignTimeMinutes = 0)
    (hwarded : ∀ live ∈ s'.liveQ04, live.shieldWard.isSome = true →
      ∀ r ∈ s'.turnResources, r.actionAvailable = false)
    (htotal : ∀ live ∈ s'.liveQ04, ∀ p ∈ live.pendingAttackReaction,
      minI16 ≤ p.attackTotal ∧ p.attackTotal ≤ maxI16)
    (hspent : ∀ live ∈ s'.liveQ04, ∀ rest ∈ live.activeShortRest, ∀ rules ∈ s'.heroRules,
      rest.hitDiceSpent + rules.runtimeResources.hitDice.current ≤ rules.runtimeResources.hitDice.maximum) :
    Grounded s' where
  speed := by
    show 5 ∣ s'.hero.skeleton.speedFeet
    rw [hf.hero]
    exact hg.speed
  armor := by
    show s'.hero.skeleton.armorClass ≤ 30
    rw [hf.hero]
    exact hg.armor
  arsenal := by
    show _ → ∀ attack ∈ s'.hero.skeleton.attacks, _
    rw [hf.hero, hf.schemaVersion]
    exact hg.arsenal
  dying := fun hs hdown => hf.lethalityPolicy.trans (hdying hs hdown)
  clock := hclock
  warded := hwarded
  total := htotal
  spent := hspent

/-! ## Rolls of one resolution -/

namespace EncounterResolution

theorem RollsValid.nil : RollsValid [] := ⟨Nat.zero_le _, by simp, by simp⟩

theorem RollsValid.snoc {rolls : List RawRollFacts} (h : RollsValid rolls) {roll : RawRollFacts}
    (hlt : rolls.length < maxU16) (hseq : roll.sequence = rolls.length + 1) (hv : roll.Valid) :
    RollsValid (rolls ++ [roll]) := by
  refine ⟨by rw [List.length_append, List.length_singleton]; omega, fun i r hr => ?_, fun r hr => ?_⟩
  · by_cases hi : i < rolls.length
    · rw [List.getElem?_append_left hi] at hr
      exact h.sequence i r hr
    · rw [List.getElem?_append_right (Nat.le_of_not_lt hi)] at hr
      obtain ⟨hlen, hget⟩ := List.getElem?_eq_some_iff.mp hr
      rw [List.length_singleton] at hlen
      obtain rfl : roll = r := by simpa using hget
      omega
  · rcases List.mem_append.mp hr with hr | hr
    · exact h.valid r hr
    · rw [List.mem_singleton.mp hr]
      exact hv

end EncounterResolution

/-- What a draft has recorded so far: valid rolls in sequence, and nothing that the schema version does not
    know. -/
structure Recorded (s : EncounterState) (d : Draft) : Prop where
  rolls : EncounterResolution.RollsValid d.rolls
  rollsFit : ∀ roll ∈ d.rolls, roll.Fits s.schemaVersion
  factsFit : ∀ f ∈ d.facts, f.Fits s.schemaVersion

namespace Recorded

variable {s : EncounterState} {d : Draft}

theorem of (s : EncounterState) : Recorded s (.of s) := ⟨.nil, by simp, by simp⟩

theorem push (h : Recorded s d) {f : EncounterFact} (hf : f.Fits s.schemaVersion) : Recorded s (d.push f) := by
  refine ⟨h.rolls, h.rollsFit, fun f' hmem => ?_⟩
  rcases List.mem_append.mp hmem with hmem | hmem
  · exact h.factsFit f' hmem
  · rw [List.mem_singleton.mp hmem]
    exact hf

theorem update (h : Recorded s d) {f : EncounterState → EncounterState} : Recorded s (d.update f) :=
  ⟨h.rolls, h.rollsFit, h.factsFit⟩

/-- One more roll, numbered after the ones before. -/
theorem withRoll (h : Recorded s d) {roll : RawRollFacts} (hlt : d.rolls.length < maxU16)
    (hseq : roll.sequence = d.rolls.length + 1) (hv : roll.Valid) (hfit : roll.Fits s.schemaVersion) :
    Recorded s (d.withRolls (d.rolls ++ [roll])) := by
  refine ⟨h.rolls.snoc hlt hseq hv, fun r hmem => ?_, h.factsFit⟩
  rcases List.mem_append.mp hmem with hmem | hmem
  · exact h.rollsFit r hmem
  · rw [List.mem_singleton.mp hmem]
    exact hfit

theorem sealable (h : Recorded s d) {n : DeterministicNarration} (hn : n.Valid) (hf : Frame s d.state)
    (hm : d.state.Moved) (hne : d.facts ≠ []) : Sealable s n d :=
  ⟨hn, hf, hm, h.rolls, hne, h.rollsFit, h.factsFit⟩

end Recorded

theorem Draft.push_facts_ne {d : Draft} {f : EncounterFact} : (d.push f).facts ≠ [] := by
  rw [Draft.push_facts]
  simp

namespace EncounterState

variable {s s' : EncounterState}

/-! ## The live runtime of an encounter that is under way or over -/

/-- What is checked about a live runtime whatever waits or wards. -/
structure LiveCore (s : EncounterState) (live : EncounterLiveQ04State) : Prop where
  objects : ∃ rune lever, live.objects = [rune, lever] ∧ ObjectValid rune viaductRuneObjectId 0 ∧
    ObjectValid lever sluiceLeverObjectId sluicePositionFeet
  hand : ∀ hand ∈ live.mageHand, ∃ position, live.mageHandPositionFeet = some position ∧
    HandValid s hand position
  noHand : live.mageHand = none → live.mageHandPositionFeet = none
  sleep : ∀ sleep ∈ live.sleep, SleepValid s sleep
  awake : live.sleep = none → s.creatureAsleep = false
  longRest : ∀ minute ∈ live.lastLongRestCompletedAtCampaignMinute, minute ≤ live.campaignTimeMinutes

namespace LiveCore

variable {live live' : EncounterLiveQ04State}

/-- Only hands depend on where the hero is, and only sleep on how the creature fares. -/
theorem step (h : LiveCore s live) (hmap : s'.map = s.map)
    (hpos : s'.hero.positionFeet = s.hero.positionFeet) (hasleep : s'.creatureAsleep = s.creatureAsleep)
    (hlife : s'.creature.lifeStatus = .conscious) : LiveCore s' live where
  objects := h.objects
  hand := fun hand hmem => by
    obtain ⟨position, hposition, hvalid⟩ := h.hand hand hmem
    exact ⟨position, hposition, hvalid.step hmap hpos⟩
  noHand := h.noHand
  sleep := fun sleep hmem => (h.sleep sleep hmem).step hasleep hlife
  awake := fun hnone => hasleep.trans (h.awake hnone)
  longRest := h.longRest

theorem valid (h : LiveCore s live) (hpending : ∀ p ∈ live.pendingAttackReaction, PendingValid s live p)
    (hward : ∀ w ∈ live.shieldWard, WardValid s w) (hrest : live.activeShortRest = none)
    (hs : s.status ≠ .ready) : LiveValid s live where
  objects := h.objects
  hand := h.hand
  noHand := h.noHand
  sleep := h.sleep
  awake := h.awake
  pending := hpending
  ward := hward
  rest := fun r hr => by rw [hrest] at hr; cases hr
  longRest := h.longRest
  ready := fun hready => absurd hready hs

end LiveCore

variable {live : EncounterLiveQ04State}

theorem LiveValid.core (hv : LiveValid s live) : LiveCore s live :=
  ⟨hv.objects, hv.hand, hv.noHand, hv.sleep, hv.awake, hv.longRest⟩

/-- On the hero's turn nothing waits and nothing wards. -/
theorem LiveValid.quiet (hv : LiveValid s live)
    (hturn : s.currentActorId = some canalWardenId) :
    live.pendingAttackReaction = none ∧ live.shieldWard = none := by
  have hturn : s.currentActorId ≠ some sootWightId := by
    rw [hturn]
    intro h
    exact sootWightId_ne_canalWardenId (Option.some.inj h).symm
  refine ⟨?_, ?_⟩
  · cases hp : live.pendingAttackReaction with
    | none => rfl
    | some p => exact absurd (hv.pending p hp).turn hturn
  · cases hw : live.shieldWard with
    | none => rfl
    | some w => exact absurd (hv.ward w hw).turn hturn

/-! ## A change within a turn -/

/-- Only what can change within a turn differs. -/
def Within (s s' : EncounterState) : Prop :=
  s' = { s with
    hero := s'.hero
    heroRules := s'.heroRules
    creature := s'.creature
    turnResources := s'.turnResources
    objectives := { s.objectives with contextual := { s.objectives.contextual with
      status := s'.objectives.contextual.status } }
    liveQ04 := s'.liveQ04 }

/-- **A change within a turn**, up to what it means for the phase. -/
structure Stepped (s s' : EncounterState) : Prop where
  within : Within s s'
  heroSkeleton : s'.hero.skeleton = s.hero.skeleton
  creatureSkeleton : s'.creature.skeleton = s.creature.skeleton
  rulesSkeleton : s'.heroRules.map (·.skeleton) = s.heroRules.map (·.skeleton)
  hero : s'.hero.Sound s.map
  creature : s'.creature.Sound s.map
  pools : ∀ rules ∈ s'.heroRules, rules.runtimeResources.Valid
  effects : EffectsValid s'
  core : s.schemaVersion = encounterSchemaVersion → ∃ live, s'.liveQ04 = some live ∧ LiveCore s' live ∧
    live.activeShortRest = none
  noLive : s.schemaVersion ≠ encounterSchemaVersion → s'.liveQ04 = none

namespace Stepped

theorem sameTurn (h : Stepped s s') : SameTurn s s' := by
  have hw : Within s s' := h.within
  unfold Within at hw
  constructor <;> rw [hw]

theorem schemaVersion (h : Stepped s s') : s'.schemaVersion = s.schemaVersion := by
  rw [show s' = _ from h.within]

theorem policy (h : Stepped s s') : s'.lethalityPolicy = s.lethalityPolicy := by
  rw [show s' = _ from h.within]

theorem map (h : Stepped s s') : s'.map = s.map := by
  rw [show s' = _ from h.within]

theorem frame (h : Stepped s s') : Frame s s' := by
  have hw : Within s s' := h.within
  unfold Within at hw
  unfold Frame EncounterState.skeleton
  rw [h.heroSkeleton, h.creatureSkeleton, h.rulesSkeleton, hw]

theorem initiative (h : Stepped s s') (hv : s.Valid) : ∀ i ∈ s'.initiative,
    i.Valid s'.hero.initiativeModifier s'.creature.initiativeModifier := by
  have hhero : s'.hero.initiativeModifier = s.hero.initiativeModifier := by
    show s'.hero.skeleton.initiativeModifier = s.hero.skeleton.initiativeModifier
    rw [h.heroSkeleton]
  have hcreature : s'.creature.initiativeModifier = s.creature.initiativeModifier := by
    show s'.creature.skeleton.initiativeModifier = s.creature.skeleton.initiativeModifier
    rw [h.creatureSkeleton]
  rw [h.sameTurn.initiative, hhero, hcreature]
  exact hv.initiative

theorem hero_kind (h : Stepped s s') : s'.hero.kind = s.hero.kind := by
  show s'.hero.skeleton.kind = s.hero.skeleton.kind
  rw [h.heroSkeleton]

/-- **A change that leaves both combatants in the fight** leaves a valid state. -/
theorem moved (h : Stepped s s') (hv : s.Valid) (hs : s.status = .active)
    (hhero : s'.hero.lifeStatus = .conscious ∨ s'.hero.lifeStatus = .unconscious)
    (hcreature : s'.creature.lifeStatus = .conscious) {r r' : TurnResources} (hr : s.turnResources = some r)
    (hr' : s'.turnResources = some r') (hleft : LeftOf s' r r')
    (hpending : ∀ live ∈ s'.liveQ04, ∀ p ∈ live.pendingAttackReaction, PendingValid s' live p)
    (hward : ∀ live ∈ s'.liveQ04, ∀ w ∈ live.shieldWard, WardValid s' w) : s'.Moved where
  hero := by rw [h.map]; exact h.hero
  creature := by rw [h.map]; exact h.creature
  pools := h.pools
  live := fun h3 => by
    obtain ⟨live, hlive, hcore, hrest⟩ := h.core (h.schemaVersion.symm.trans h3)
    exact ⟨live, hlive, hcore.valid (hpending live hlive) (hward live hlive) hrest
      (by rw [h.sameTurn.status, hs]; decide)⟩
  noLive := fun hne => h.noLive fun h3 => hne (h.schemaVersion.trans h3)
  effects := h.effects
  initiative := h.initiative hv
  phase := .active (h.sameTurn.status.trans hs)
    ((hv.active hs).step h.frame h.sameTurn hcreature hhero hr hr' hleft)

/-- The initiative of an active encounter outlasts it. -/
theorem initiative_ne (h : Stepped s s') (hv : s.Valid) (hs : s.status = .active) : s'.initiative ≠ none := by
  obtain ⟨i, -, hi, -⟩ := (hv.active hs).order
  rw [h.sameTurn.initiative, hi]
  exact nofun

/-- What an encounter that has ended leaves of the live runtime. -/
theorem endedLive (h : Stepped s s') {t : EncounterState}
    (ht : t.liveQ04 = s'.liveQ04 ∧ t.map = s'.map ∧ t.hero = s'.hero ∧ t.creature = s'.creature)
    (hs : t.status ≠ .ready)
    (hquiet : ∀ live ∈ s'.liveQ04, live.pendingAttackReaction = none ∧ live.shieldWard = none)
    (h3 : s.schemaVersion = encounterSchemaVersion) : ∃ live, t.liveQ04 = some live ∧ LiveValid t live := by
  obtain ⟨hlive', hmap, hhero, hcreature⟩ := ht
  obtain ⟨live, hlive, hcore, hrest⟩ := h.core h3
  obtain ⟨hp, hw⟩ := hquiet live hlive
  have hasleep : t.creatureAsleep = s'.creatureAsleep := by
    unfold creatureAsleep
    rw [hcreature]
  have hcore' : LiveCore t live :=
    ⟨hcore.objects,
      fun hand hmem => by
        obtain ⟨position, hposition, hvalid⟩ := hcore.hand hand hmem
        exact ⟨position, hposition, hvalid.step hmap (by rw [hhero])⟩,
      hcore.noHand,
      fun sleep hmem => (hcore.sleep sleep hmem).step hasleep
        (by rw [hcreature]; exact (hcore.sleep sleep hmem).conscious),
      fun hnone => hasleep.trans (hcore.awake hnone), hcore.longRest⟩
  exact ⟨live, hlive'.trans hlive, hcore'.valid (by rw [hp]; exact nofun) (by rw [hw]; exact nofun) hrest hs⟩

/-- **A change that defeats the hero** ends the encounter in a valid defeat. -/
theorem defeat (h : Stepped s s') (hv : s.Valid) (hs : s.status = .active) {reason : DefeatReason}
    (hhero : (s.lethalityPolicy = .storyRecovery ∧ s'.hero.lifeStatus = .unconscious) ∨
      (s.lethalityPolicy = .rulesAsWritten ∧
        (s'.hero.lifeStatus = .stable ∨ s'.hero.lifeStatus = .dead)))
    (hclock : ∀ live ∈ s'.liveQ04, live.campaignTimeMinutes = 0)
    (hquiet : ∀ live ∈ s'.liveQ04, live.pendingAttackReaction = none ∧ live.shieldWard = none) :
    (s'.defeat reason).Moved where
  hero := by
    show s'.hero.Sound s'.map
    rw [h.map]
    exact h.hero
  creature := by
    show s'.creature.Sound s'.map
    rw [h.map]
    exact h.creature
  pools := h.pools
  live := fun h3 => h.endedLive ⟨rfl, rfl, rfl, rfl⟩ (fun hready => by cases hready) hquiet (h.schemaVersion.symm.trans h3)
  noLive := fun hne => h.noLive fun h3 => hne (h.schemaVersion.trans h3)
  effects := ⟨h.effects.ward, h.effects.notFailed, h.effects.veil, h.effects.unveiled⟩
  initiative := h.initiative hv
  phase := by
    have hlife := h.hero.health.life
    unfold CombatantState.LifeShape at hlife
    rw [h.hero_kind, hv.fixed.heroKind] at hlife
    -- the campaign clock stands still until the hero rests
    have hentered : (s'.defeat reason).recoveryEntered = false := by
      unfold recoveryEntered
      show (_ && s'.liveQ04.any _) = false
      cases hlive : s'.liveQ04 with
      | none => rw [Option.any_none, Bool.and_false]
      | some live => rw [Option.any_some, hclock live hlive]; simp
    have hhealth : DefeatHealth (s'.defeat reason)
        { destinationId := explorationDestinationId
          outcome := .defeat
          defeatReason := some reason
          heroCurrentHitPoints := if decide (s'.lethalityPolicy = .storyRecovery) then 1
            else s'.hero.hitPoints.current
          heroLifeStatus := if decide (s'.lethalityPolicy = .storyRecovery) then .conscious
            else s'.hero.lifeStatus
          storyRecoveryApplied := decide (s'.lethalityPolicy = .storyRecovery) } := by
      unfold DefeatHealth
      rw [hentered]
      have hpolicies : (s'.defeat reason).lethalityPolicy = s'.lethalityPolicy := rfl
      rw [hpolicies]
      rcases hhero with ⟨hpolicy, hdown⟩ | ⟨hpolicy, hdown⟩
      · rw [hdown] at hlife
        rw [h.policy, hpolicy]
        exact ⟨hdown, hlife.1, rfl, rfl, rfl⟩
      · rw [h.policy, hpolicy]
        exact ⟨hdown, rfl, rfl, rfl⟩
    exact ⟨_, rfl, ⟨h.initiative_ne hv hs, rfl, rfl, rfl⟩, rfl, rfl, rfl, (fun hready => by cases hready), hhealth, rfl⟩

/-! ### … keeps a state grounded -/

/-- Nobody rests within a turn. -/
theorem noRest (h : Stepped s s') {live : EncounterLiveQ04State} (hlive : live ∈ s'.liveQ04) :
    live.activeShortRest = none := by
  by_cases h3 : s.schemaVersion = encounterSchemaVersion
  · obtain ⟨live', hlive', -, hrest⟩ := h.core h3
    obtain rfl : live = live' := Option.mem_unique hlive hlive'
    exact hrest
  · rw [h.noLive h3] at hlive
    cases hlive

/-- **A change within a turn keeps a state grounded** when the clock stands still, no spent action returns
    under a ward, and nobody goes down under story recovery. -/
theorem grounded (h : Stepped s s') (hg : Grounded s)
    (hdown : s'.hero.lifeStatus = .unconscious → s.lethalityPolicy = .rulesAsWritten)
    (hclock : ∀ live ∈ s'.liveQ04, live.campaignTimeMinutes = 0)
    (hward : ∀ live ∈ s'.liveQ04, live.shieldWard.isSome = true →
      ∀ r ∈ s'.turnResources, r.actionAvailable = false)
    (htotal : ∀ live ∈ s'.liveQ04, ∀ p ∈ live.pendingAttackReaction,
      minI16 ≤ p.attackTotal ∧ p.attackTotal ≤ maxI16) : Grounded s' := by
  refine hg.of_frame h.frame (fun _ => hdown) (fun _ => hclock) hward htotal fun live hlive rest hrest => ?_
  rw [h.noRest hlive] at hrest
  cases hrest

end Stepped

end EncounterState

end ManchesterArcana.Encounter
