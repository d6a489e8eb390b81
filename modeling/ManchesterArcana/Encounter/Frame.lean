import ManchesterArcana.Encounter.Validate

/-!
# `Encounter.Frame` — what no action of an encounter changes

An encounter carries the hero's combat snapshot, the creature's statistics, the map, the policy and the
content pins from its opening to its end. `skeleton` erases everything else, so that two states agree on all
of it exactly when their skeletons are equal (`Frame`); an update of anything else is framed by `rfl`.
-/

namespace ManchesterArcana.Rules

/-- A pool without its contents. -/
def ResourceCounter.emptied (c : ResourceCounter) : ResourceCounter := { c with current := 0 }

/-- Runtime resources without the contents of the pools. -/
def RuntimeResources.skeleton (r : RuntimeResources) : RuntimeResources :=
  { r with
    hitDice := r.hitDice.emptied
    secondWind := r.secondWind.map .emptied
    actionSurge := r.actionSurge.map .emptied
    levelOneSpellSlots := r.levelOneSpellSlots.map .emptied
    arcaneRecovery := r.arcaneRecovery.map .emptied }

end ManchesterArcana.Rules

namespace ManchesterArcana.Encounter

open Rules

/-- A rules snapshot without the contents of its pools. -/
def EncounterHeroRulesProfile.skeleton (p : EncounterHeroRulesProfile) : EncounterHeroRulesProfile :=
  { p with runtimeResources := p.runtimeResources.skeleton }

/-- A combatant without position, health and effects. -/
def CombatantState.skeleton (c : CombatantState) : CombatantState :=
  { c with
    positionFeet := 0
    hitPoints := ⟨0, c.hitPoints.maximum, 0, {}⟩
    lifeStatus := .conscious
    statusEffects := [] }

/-- A state without anything that an action can change. -/
def EncounterState.skeleton (s : EncounterState) : EncounterState :=
  { s with
    hero := s.hero.skeleton
    heroRules := s.heroRules.map (·.skeleton)
    creature := s.creature.skeleton
    initiative := none
    round := 0
    currentActorIndex := none
    currentActorId := none
    turnResources := none
    objectives := ⟨⟨s.objectives.primary.objectiveId, .pending⟩, ⟨s.objectives.contextual.objectiveId, .pending⟩⟩
    status := .ready
    rewardEligibility := .pending
    transition := none
    liveQ04 := none }

/-- **`s'` carries everything that `s` carries for the length of the encounter.** -/
def Frame (s s' : EncounterState) : Prop := s'.skeleton = s.skeleton

namespace Frame

variable {s s' s'' : EncounterState}

theorem trans (h : Frame s s') (h' : Frame s' s'') : Frame s s'' := Eq.trans h' h

theorem schemaVersion (h : Frame s s') : s'.schemaVersion = s.schemaVersion := by
  show s'.skeleton.schemaVersion = s.skeleton.schemaVersion
  exact congrArg EncounterState.schemaVersion h

theorem revision (h : Frame s s') : s'.revision = s.revision := by
  show s'.skeleton.revision = s.skeleton.revision
  exact congrArg EncounterState.revision h

theorem lethalityPolicy (h : Frame s s') : s'.lethalityPolicy = s.lethalityPolicy := by
  show s'.skeleton.lethalityPolicy = s.skeleton.lethalityPolicy
  exact congrArg EncounterState.lethalityPolicy h

theorem map (h : Frame s s') : s'.map = s.map := by
  show s'.skeleton.map = s.skeleton.map
  exact congrArg EncounterState.map h

theorem hero (h : Frame s s') : s'.hero.skeleton = s.hero.skeleton := congrArg EncounterState.hero h

theorem creature (h : Frame s s') : s'.creature.skeleton = s.creature.skeleton :=
  congrArg EncounterState.creature h

theorem rules (h : Frame s s') : s'.heroRules.map (·.skeleton) = s.heroRules.map (·.skeleton) :=
  congrArg EncounterState.heroRules h

end Frame

end ManchesterArcana.Encounter
