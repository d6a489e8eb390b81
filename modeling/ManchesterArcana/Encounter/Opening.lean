import ManchesterArcana.Encounter.Validate

/-!
# `Encounter.Opening` — how an encounter begins

The one authored encounter is opened for the fixed Canal Warden or for a created hero, whose combat snapshot
it carries from then on. Historical schema versions are reconstructed for replay only. What a constructor
returns has passed the whole-state check.
-/

namespace ManchesterArcana.Encounter

open Effect Rules

namespace EncounterLiveQ04State

def new : EncounterLiveQ04State where
  objects :=
    [ { objectId := viaductRuneObjectId, positionFeet := 0, maximumDimensionFeet := 5, weightPounds := 10
        isMagicItem := false, lightRemainingRounds := none }
    , { objectId := sluiceLeverObjectId, positionFeet := sluicePositionFeet, maximumDimensionFeet := 5
        weightPounds := 10, isMagicItem := false, lightRemainingRounds := none } ]
  mageHand := none
  mageHandPositionFeet := none
  sleep := none
  pendingAttackReaction := none
  shieldWard := none
  heroReactionAvailable := true
  campaignTimeMinutes := 0
  activeShortRest := none
  lastLongRestCompletedAtCampaignMinute := none

end EncounterLiveQ04State

namespace EncounterState

/-- The authored encounter. Runes understood give the hero a ward of 2; runes misread double the veil. -/
def new (lethalityPolicy : LethalityPolicy) (opening : OpeningConsequence) : EncounterState where
  schemaVersion := encounterSchemaVersion
  encounterId := sootWightEncounterId
  rulesetId := encounterRulesetId
  contentPackId := encounterContentPackId
  revision := 1
  lethalityPolicy := lethalityPolicy
  openingConsequence := opening
  map := ⟨battlefieldMinFeet, battlefieldMaxFeet, sluicePositionFeet, contextRangeFeet⟩
  hero :=
    { id := canalWardenId
      name := "Canal Warden"
      kind := .hero
      sourceCharacterId := none
      armorClass := 18
      speedFeet := 30
      initiativeModifier := 2
      positionFeet := 0
      hitPoints := ⟨heroMaximumHitPoints, heroMaximumHitPoints, (openingTemporary opening).1, {}⟩
      lifeStatus := .conscious
      statusEffects := match opening with
        | .runesUnderstood => [.runeWard]
        | .runesMisread => []
      attacks := [] }
  heroRules := none
  creature :=
    { id := sootWightId
      name := "Soot Wight"
      kind := .creature
      sourceCharacterId := none
      armorClass := 12
      speedFeet := 25
      initiativeModifier := 1
      positionFeet := 30
      hitPoints := ⟨creatureMaximumHitPoints, creatureMaximumHitPoints, (openingTemporary opening).2, {}⟩
      lifeStatus := .conscious
      statusEffects := [.sootVeil]
      attacks := [] }
  initiative := none
  round := 0
  currentActorIndex := none
  currentActorId := none
  turnResources := none
  objectives := ⟨⟨defeatSootWightObjectiveId, .pending⟩, ⟨releaseSluiceObjectiveId, .pending⟩⟩
  status := .ready
  rewardEligibility := .pending
  transition := none
  liveQ04 := some .new

/-- The historical envelope of versions 1 and 2, for replay. -/
def pinHistoricalSchemaForReplay (s : EncounterState) (schemaVersion : Nat) :
    EncounterResult EncounterState := do
  rejectIf (schemaVersion ≠ legacyEncounterSchemaVersion ∧ schemaVersion ≠ liveV2EncounterSchemaVersion)
    (.invalidState "historical replay schema must be version 1 or 2")
  let pinned := { s with
    schemaVersion
    contentPackId := legacyEncounterContentPackId
    liveQ04 := none }
  pinned.validate
  return pinned

/-- Put a hero's combat snapshot in the place of the Canal Warden. -/
def withHeroProfile (s : EncounterState) (profile : EncounterHeroProfile) : EncounterState :=
  { s with
    hero := { s.hero with
      sourceCharacterId := some profile.sourceCharacterId
      name := profile.name
      armorClass := profile.armorClass
      speedFeet := profile.speedFeet
      initiativeModifier := profile.initiativeModifier
      hitPoints := { s.hero.hitPoints with
        current := profile.currentHitPoints
        maximum := profile.maximumHitPoints }
      attacks := profile.attacks }
    heroRules := profile.rules }

/-- The authored encounter in the envelope of a schema version. -/
def newAtSchema (lethalityPolicy : LethalityPolicy) (opening : OpeningConsequence) (schemaVersion : Nat) :
    EncounterResult EncounterState :=
  if schemaVersion ≠ encounterSchemaVersion
  then (new lethalityPolicy opening).pinHistoricalSchemaForReplay schemaVersion
  else .ok (new lethalityPolicy opening)

def newForHeroAtSchema (lethalityPolicy : LethalityPolicy) (opening : OpeningConsequence)
    (profile : EncounterHeroProfile) (schemaVersion : Nat) : EncounterResult EncounterState := do
  profile.validate
  let opened ← newAtSchema lethalityPolicy opening schemaVersion
  let state := opened.withHeroProfile profile
  state.validate
  return state

def newForHero (lethalityPolicy : LethalityPolicy) (opening : OpeningConsequence)
    (profile : EncounterHeroProfile) : EncounterResult EncounterState :=
  newForHeroAtSchema lethalityPolicy opening profile encounterSchemaVersion

def newForHeroForHistoricalReplay (lethalityPolicy : LethalityPolicy) (opening : OpeningConsequence)
    (profile : EncounterHeroProfile) (schemaVersion : Nat) : EncounterResult EncounterState := do
  rejectIf (schemaVersion ≠ legacyEncounterSchemaVersion ∧ schemaVersion ≠ liveV2EncounterSchemaVersion)
    (.invalidState "historical hero replay schema must be version 1 or 2")
  newForHeroAtSchema lethalityPolicy opening profile schemaVersion

/-- The combat snapshot a state carries; the fixed Canal Warden has none. -/
def heroProfile (s : EncounterState) : Option EncounterHeroProfile :=
  s.hero.sourceCharacterId.map fun sourceCharacterId =>
    { sourceCharacterId
      name := s.hero.name
      armorClass := s.hero.armorClass
      speedFeet := s.hero.speedFeet
      initiativeModifier := s.hero.initiativeModifier
      currentHitPoints := s.hero.hitPoints.current
      maximumHitPoints := s.hero.hitPoints.maximum
      attacks := s.hero.attacks
      rules := s.heroRules }

variable {policy : LethalityPolicy} {opening : OpeningConsequence}

/-- The fixed encounter is valid, whatever the runes said. -/
theorem new_valid : (new policy opening).Valid := by
  rw [← validate_eq_ok]
  cases policy <;> cases opening <;> decide

/-- **A hero enters through a valid profile into a valid state that is built from it.** -/
theorem newForHeroAtSchema_eq_ok
    {profile : EncounterHeroProfile} {schemaVersion : Nat} {s : EncounterState}
    (h : newForHeroAtSchema policy opening profile schemaVersion = .ok s) :
    profile.Valid ∧ s.Valid ∧ supportedSchema schemaVersion = true ∧
      s = { (new policy opening).withHeroProfile profile with
        schemaVersion
        contentPackId := expectedContentPackId schemaVersion
        liveQ04 := if schemaVersion = encounterSchemaVersion then some .new else none } := by
  simp only [newForHeroAtSchema, bind_eq_ok, exists_unit, pure_eq, Except.ok.injEq] at h
  obtain ⟨hp, opened, hopen, hv, rfl⟩ := h
  refine ⟨EncounterHeroProfile.validate_eq_ok.mp hp, validate_eq_ok.mp hv, ?_⟩
  unfold newAtSchema at hopen
  by_cases h3 : schemaVersion = encounterSchemaVersion
  · rw [if_neg (not_not.mpr h3)] at hopen
    obtain rfl := Except.ok.inj hopen
    subst h3
    exact ⟨by decide, rfl⟩
  · rw [if_pos h3] at hopen
    simp only [pinHistoricalSchemaForReplay, bind_eq_ok, exists_unit, rejectIf_eq_ok, pure_eq,
      Except.ok.injEq] at hopen
    obtain ⟨hsup, -, rfl⟩ := hopen
    refine ⟨?_, ?_⟩
    · rw [not_and_or, not_not, not_not] at hsup
      rcases hsup with rfl | rfl <;> decide
    · simp only [withHeroProfile, if_neg h3, expectedContentPackId]

end EncounterState

end ManchesterArcana.Encounter
