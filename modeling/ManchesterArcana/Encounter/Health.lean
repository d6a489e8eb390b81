import ManchesterArcana.Encounter.Frame
import ManchesterArcana.Encounter.Rolls

/-!
# `Encounter.Health` — damage, and how the encounter ends

`applyDamage` is the encounter's own damage rule; it treats the creature, a hero under story recovery and a
hero under the rules as written differently. When a combatant goes down the encounter may be over, which is
decided by `finishForHealthTransition`.

A resolver works on a `Draft`: the state it is rewriting and the rolls and facts it has recorded so far.
-/

namespace ManchesterArcana.Encounter

open Effect Rules

/-- The successor state under construction, with what has been recorded on the way. -/
structure Draft where
  state : EncounterState
  rolls : List RawRollFacts
  facts : List EncounterFact

namespace Draft

/-- Record one more fact. -/
def push (d : Draft) (fact : EncounterFact) : Draft := { d with facts := d.facts ++ [fact] }

/-- Rewrite the state. -/
def update (d : Draft) (f : EncounterState → EncounterState) : Draft := { d with state := f d.state }

/-- Continue with the rolls of a throw. -/
def withRolls (d : Draft) (rolls : List RawRollFacts) : Draft := { d with rolls }

@[simp] theorem push_state (d : Draft) (f : EncounterFact) : (d.push f).state = d.state := rfl
@[simp] theorem push_rolls (d : Draft) (f : EncounterFact) : (d.push f).rolls = d.rolls := rfl
@[simp] theorem push_facts (d : Draft) (f : EncounterFact) : (d.push f).facts = d.facts ++ [f] := rfl
@[simp] theorem update_state (d : Draft) (f : EncounterState → EncounterState) :
    (d.update f).state = f d.state := rfl
@[simp] theorem update_rolls (d : Draft) (f : EncounterState → EncounterState) :
    (d.update f).rolls = d.rolls := rfl
@[simp] theorem update_facts (d : Draft) (f : EncounterState → EncounterState) :
    (d.update f).facts = d.facts := rfl
@[simp] theorem withRolls_state (d : Draft) (r : List RawRollFacts) : (d.withRolls r).state = d.state := rfl
@[simp] theorem withRolls_rolls (d : Draft) (r : List RawRollFacts) : (d.withRolls r).rolls = r := rfl
@[simp] theorem withRolls_facts (d : Draft) (r : List RawRollFacts) : (d.withRolls r).facts = d.facts := rfl

end Draft

def narration (narrationId authoredText fallbackText : String) : DeterministicNarration :=
  ⟨narrationId, authoredText, fallbackText⟩

def heroNarrativeName (s : EncounterState) : String :=
  if s.hero.sourceCharacterId.isNone then "The " ++ s.hero.name else s.hero.name

/-! ## Damage -/

structure DamageApplication where
  temporaryBefore : Nat
  temporaryAbsorbed : Nat
  temporaryAfter : Nat
  currentBefore : Nat
  currentAfter : Nat
  lifeBefore : LifeStatus
  lifeAfter : LifeStatus
  deriving DecidableEq

namespace CombatantState

/-- Damage that got past the temporary hit points of a creature. -/
def strikeCreature (c : CombatantState) (damage : Nat) : CombatantState :=
  let current := c.hitPoints.current - damage
  { c with
    hitPoints := { c.hitPoints with current }
    lifeStatus := if current = 0 then .dead else c.lifeStatus }

/-- … of a hero under story recovery, who is never worse than unconscious. -/
def strikeStoryHero (c : CombatantState) (damage : Nat) : CombatantState :=
  let current := c.hitPoints.current - damage
  { c with
    hitPoints := { c.hitPoints with
      current, deathSaves := if current = 0 then {} else c.hitPoints.deathSaves }
    lifeStatus := if current = 0 then .unconscious else c.lifeStatus }

/-- … of a hero who is up, under the rules as written. -/
def strikeStanding (c : CombatantState) (damage : Nat) : CombatantState :=
  if damage ≥ c.hitPoints.current then
    let remaining := damage - c.hitPoints.current
    { c with
      hitPoints := { c.hitPoints with
        current := 0
        deathSaves := { failures := if remaining ≥ c.hitPoints.maximum then 3 else 0 } }
      lifeStatus := if remaining ≥ c.hitPoints.maximum then .dead else .unconscious }
  else { c with hitPoints := { c.hitPoints with current := c.hitPoints.current - damage } }

/-- … of a hero who is down, under the rules as written. -/
def strikeFallen (c : CombatantState) (damage : Nat) (critical : Bool) : CombatantState :=
  if damage ≥ c.hitPoints.maximum then
    { c with
      hitPoints := { c.hitPoints with deathSaves := { c.hitPoints.deathSaves with failures := 3 } }
      lifeStatus := .dead }
  else
    let failures := min (c.hitPoints.deathSaves.failures + if critical then 2 else 1) 3
    let successes := if c.lifeStatus = .stable then 0 else c.hitPoints.deathSaves.successes
    { c with
      hitPoints := { c.hitPoints with deathSaves := { successes, failures } }
      lifeStatus := if failures = 3 then .dead else if c.lifeStatus = .stable then .unconscious
        else c.lifeStatus }

/-- Damage that got past the temporary hit points. -/
def strike (c : CombatantState) (damage : Nat) (critical : Bool) (policy : LethalityPolicy) :
    CombatantState :=
  if c.kind = .creature then c.strikeCreature damage
  else if policy = .storyRecovery then c.strikeStoryHero damage
  else if c.hitPoints.current > 0 then c.strikeStanding damage
  else if damage > 0 then c.strikeFallen damage critical
  else c

end CombatantState

/-- Temporary hit points first, then the rest. -/
def applyDamage (target : CombatantState) (amount : Nat) (critical : Bool) (policy : LethalityPolicy) :
    CombatantState × DamageApplication :=
  let absorbed := min amount target.hitPoints.temporary
  let shielded := { target with
    hitPoints := { target.hitPoints with temporary := target.hitPoints.temporary - absorbed } }
  let next := shielded.strike (amount - absorbed) critical policy
  (next,
    { temporaryBefore := target.hitPoints.temporary
      temporaryAbsorbed := absorbed
      temporaryAfter := next.hitPoints.temporary
      currentBefore := target.hitPoints.current
      currentAfter := next.hitPoints.current
      lifeBefore := target.lifeStatus
      lifeAfter := next.lifeStatus })

/-! ### What damage does to a valid combatant -/

/-- Only current hit points, temporary hit points, death saves and life status differ. -/
def HealthChanged (c c' : CombatantState) : Prop :=
  c' = { c with
    hitPoints := { c'.hitPoints with maximum := c.hitPoints.maximum }
    lifeStatus := c'.lifeStatus }

namespace HealthChanged

theorem trans {c c' c'' : CombatantState} (h : HealthChanged c c') (h' : HealthChanged c' c'') :
    HealthChanged c c'' := by
  unfold HealthChanged at h h' ⊢
  rw [h', h]

end HealthChanged

variable {c : CombatantState}

theorem HealthChanged.skeleton {c' : CombatantState} (h : HealthChanged c c') :
    c'.skeleton = c.skeleton := by
  rw [h]
  rfl

/-- The part of a valid combatant that damage and recovery change. -/
structure HealthValid (c : CombatantState) : Prop where
  current_le : c.hitPoints.current ≤ c.hitPoints.maximum
  temporary_le : c.hitPoints.temporary ≤ c.hitPoints.maximum
  successes_le : c.hitPoints.deathSaves.successes ≤ 3
  failures_le : c.hitPoints.deathSaves.failures ≤ 3
  life : c.LifeShape

namespace CombatantState

variable {c : CombatantState}

theorem Valid.health {map : EncounterMap} (hv : c.Valid map) : HealthValid c :=
  ⟨hv.current_le, hv.temporary_le, hv.successes_le, hv.failures_le, hv.life⟩

/-- A valid combatant whose health changed is valid when its new health is. -/
theorem Valid.of_changed {c' : CombatantState} {map : EncounterMap} (hv : c.Valid map)
    (h : HealthChanged c c') (hh : HealthValid c') : c'.Valid map := by
  rw [h] at hh ⊢
  exact
    { id := hv.id, name_ne := hv.name_ne, name_le := hv.name_le
      sourceCharacterId := hv.sourceCharacterId, armorClass := hv.armorClass, speed_pos := hv.speed_pos
      position_ge := hv.position_ge, position_le := hv.position_le, position_grid := hv.position_grid
      maximum_pos := hv.maximum_pos, current_le := hh.current_le, temporary_le := hh.temporary_le
      successes_le := hh.successes_le, failures_le := hh.failures_le, attacks_le := hv.attacks_le
      attacks_nodup := hv.attacks_nodup, attacks := hv.attacks, effects_nodup := hv.effects_nodup
      life := hh.life, creature := hv.creature }

/-- Each kind of strike changes health only. -/
theorem strike_changed {damage : Nat} {critical : Bool} {policy : LethalityPolicy} :
    HealthChanged c (c.strike damage critical policy) := by
  unfold strike strikeCreature strikeStoryHero strikeStanding strikeFallen
  split
  · rfl
  · split
    · rfl
    · split
      · split <;> rfl
      · split
        · split <;> rfl
        · rfl

theorem strikeCreature_health (hh : HealthValid c) (hk : c.kind = .creature)
    (damage : Nat) : HealthValid (c.strikeCreature damage) := by
  have hlife := hh.life
  have hcurrent := hh.current_le
  unfold LifeShape at hlife
  rw [hk] at hlife
  refine ⟨?_, hh.temporary_le, hh.successes_le, hh.failures_le, ?_⟩
  · show c.hitPoints.current - damage ≤ c.hitPoints.maximum
    omega
  · unfold LifeShape strikeCreature
    by_cases h0 : c.hitPoints.current - damage = 0
    · cases hl : c.lifeStatus <;> simp_all
    · cases hl : c.lifeStatus <;> simp_all

theorem strikeStoryHero_health (hh : HealthValid c) (hk : c.kind = .hero)
    (damage : Nat) : HealthValid (c.strikeStoryHero damage) := by
  have hlife := hh.life
  have hcurrent := hh.current_le
  have hs := hh.successes_le
  have hf := hh.failures_le
  unfold LifeShape at hlife
  rw [hk] at hlife
  unfold strikeStoryHero
  by_cases h0 : c.hitPoints.current - damage = 0
  · simp only [h0, if_true]
    exact ⟨Nat.zero_le _, hh.temporary_le, Nat.zero_le _, Nat.zero_le _, by simp [LifeShape, hk]⟩
  · simp only [h0, if_false]
    refine ⟨by show c.hitPoints.current - damage ≤ c.hitPoints.maximum; omega, hh.temporary_le, hs, hf, ?_⟩
    unfold LifeShape
    cases hl : c.lifeStatus <;> simp_all

theorem strikeStanding_health (hh : HealthValid c) (hk : c.kind = .hero)
    (hup : c.hitPoints.current > 0) (damage : Nat) : HealthValid (c.strikeStanding damage) := by
  have hlife := hh.life
  have hcurrent := hh.current_le
  unfold LifeShape at hlife
  rw [hk] at hlife
  unfold strikeStanding
  by_cases hdown : damage ≥ c.hitPoints.current
  · simp only [hdown, if_true]
    by_cases hmassive : damage - c.hitPoints.current ≥ c.hitPoints.maximum
    · simp only [hmassive, if_true]
      exact ⟨Nat.zero_le _, hh.temporary_le, Nat.zero_le _, Nat.le_refl _, by simp [LifeShape, hk]⟩
    · simp only [hmassive, if_false]
      exact ⟨Nat.zero_le _, hh.temporary_le, Nat.zero_le _, Nat.zero_le _, by simp [LifeShape, hk]⟩
  · simp only [hdown, if_false]
    refine ⟨by show c.hitPoints.current - damage ≤ c.hitPoints.maximum; omega, hh.temporary_le, hh.successes_le,
      hh.failures_le, ?_⟩
    unfold LifeShape
    cases hl : c.lifeStatus
    case conscious =>
      rw [hl] at hlife
      rw [hk]
      exact ⟨by show c.hitPoints.current - damage ≠ 0; omega, hlife.2⟩
    all_goals
      rw [hl] at hlife
      exact absurd hlife.1 (by omega)

theorem strikeFallen_health (hh : HealthValid c) (hk : c.kind = .hero)
    (hdown : c.hitPoints.current = 0) (damage : Nat) (critical : Bool) :
    HealthValid (c.strikeFallen damage critical) := by
  have hlife := hh.life
  have hs := hh.successes_le
  unfold LifeShape at hlife
  rw [hk] at hlife
  unfold strikeFallen
  by_cases hmassive : damage ≥ c.hitPoints.maximum
  · simp only [hmassive, if_true]
    exact ⟨hh.current_le, hh.temporary_le, hs, Nat.le_refl _, by simp [LifeShape, hk, hdown]⟩
  · simp only [hmassive, if_false]
    refine ⟨hh.current_le, hh.temporary_le, ?_, ?_, ?_⟩
    · show (if c.lifeStatus = .stable then 0 else c.hitPoints.deathSaves.successes) ≤ 3
      split <;> omega
    · exact Nat.min_le_right _ _
    · unfold LifeShape
      rw [hk]
      by_cases h3 : min (c.hitPoints.deathSaves.failures + if critical then 2 else 1) 3 = 3
      · simp only [h3, if_true]
        exact ⟨hdown, trivial⟩
      · have hlt : min (c.hitPoints.deathSaves.failures + if critical then 2 else 1) 3 < 3 := by omega
        cases hl : c.lifeStatus <;> rw [hl] at hlife
        case conscious => exact absurd hdown hlife.1
        case unconscious =>
          simp only [h3, if_false, reduceCtorEq]
          exact ⟨hdown, hlife.2.1, hlt⟩
        case stable =>
          simp only [h3, if_false, if_true]
          exact ⟨hdown, by omega, hlt⟩
        case dead =>
          have hfail := hlife.2
          split at h3 <;> omega

/-- **A struck combatant stays within its bounds and keeps the shape its life status demands.** -/
theorem strike_health (hh : HealthValid c) (damage : Nat) (critical : Bool)
    (policy : LethalityPolicy) : HealthValid (c.strike damage critical policy) := by
  unfold strike
  by_cases hk : c.kind = .creature
  · rw [if_pos hk]
    exact strikeCreature_health hh hk damage
  · have hhero : c.kind = .hero := by
      cases hkind : c.kind with
      | hero => rfl
      | creature => exact absurd hkind hk
    rw [if_neg hk]
    split
    · exact strikeStoryHero_health hh hhero damage
    · split
      · next hup => exact strikeStanding_health hh hhero hup damage
      · next hup =>
        split
        · exact strikeFallen_health hh hhero (by omega) damage critical
        · exact hh

end CombatantState

/-- The target with its temporary hit points spent. -/
def CombatantState.shielded (c : CombatantState) (absorbed : Nat) : CombatantState :=
  { c with hitPoints := { c.hitPoints with temporary := c.hitPoints.temporary - absorbed } }

theorem applyDamage_fst {amount : Nat} {critical : Bool} {policy : LethalityPolicy} :
    (applyDamage c amount critical policy).1 =
      (c.shielded (min amount c.hitPoints.temporary)).strike (amount - min amount c.hitPoints.temporary)
        critical policy := rfl

theorem applyDamage_changed {c : CombatantState} {amount : Nat} {critical : Bool}
    {policy : LethalityPolicy} : HealthChanged c (applyDamage c amount critical policy).1 := by
  have hshield : HealthChanged c (c.shielded (min amount c.hitPoints.temporary)) := rfl
  exact hshield.trans CombatantState.strike_changed

/-- **Damage keeps a valid combatant valid.** -/
theorem applyDamage_valid {map : EncounterMap} (hv : c.Valid map) (amount : Nat)
    (critical : Bool) (policy : LethalityPolicy) :
    (applyDamage c amount critical policy).1.Valid map := by
  refine hv.of_changed applyDamage_changed ?_
  have hh := hv.health
  have htemporary := hh.temporary_le
  apply CombatantState.strike_health
  exact
    { current_le := hh.current_le
      temporary_le := by
        show c.hitPoints.temporary - min amount c.hitPoints.temporary ≤ c.hitPoints.maximum
        omega
      successes_le := hh.successes_le, failures_le := hh.failures_le, life := hh.life }

/-! ## Completion -/

namespace EncounterState

/-- The turn is over for good. -/
def endTurns (s : EncounterState) : EncounterState :=
  { s with currentActorIndex := none, currentActorId := none, turnResources := none }

def setPrimary (s : EncounterState) (status : ObjectiveStatus) : EncounterState :=
  { s with objectives := { s.objectives with primary := { s.objectives.primary with status } } }

/-- The state after the creature was destroyed. -/
def victory (s : EncounterState) : EncounterState :=
  { (s.endTurns.setPrimary .completed) with
    status := .victory
    rewardEligibility := .eligible .major
    transition := some
      { destinationId := explorationDestinationId
        outcome := .victory
        defeatReason := none
        heroCurrentHitPoints := s.hero.hitPoints.current
        heroLifeStatus := s.hero.lifeStatus
        storyRecoveryApplied := false } }

/-- The state after the hero was defeated; story recovery promises the hero one hit point. -/
def defeat (s : EncounterState) (reason : DefeatReason) : EncounterState :=
  let recovery := decide (s.lethalityPolicy = .storyRecovery)
  { (s.endTurns.setPrimary .failed) with
    status := .defeat
    rewardEligibility := .ineligible .encounterDefeat
    transition := some
      { destinationId := explorationDestinationId
        outcome := .defeat
        defeatReason := some reason
        heroCurrentHitPoints := if recovery then 1 else s.hero.hitPoints.current
        heroLifeStatus := if recovery then .conscious else s.hero.lifeStatus
        storyRecoveryApplied := recovery } }

end EncounterState

def completeVictory (d : Draft) : Draft :=
  (d.update EncounterState.victory).push (.encounterCompleted .victory none true false)

def completeDefeat (d : Draft) (reason : DefeatReason) : Draft :=
  (d.update (·.defeat reason)).push
    (.encounterCompleted .defeat (some reason) false (decide (d.state.lethalityPolicy = .storyRecovery)))

/-- End the encounter if the last change of health ended it. -/
def finishForHealthTransition (d : Draft) (targetId : String) : Option EncounterOutcome × Draft :=
  if targetId = sootWightId ∧ d.state.creature.lifeStatus = .dead then
    (some .victory, completeVictory d)
  else if targetId = canalWardenId then
    match d.state.lethalityPolicy, d.state.hero.lifeStatus with
    | .storyRecovery, .unconscious => (some .defeat, completeDefeat d .heroUnconscious)
    | .rulesAsWritten, .dead => (some .defeat, completeDefeat d .heroDead)
    | _, _ => (none, d)
  else (none, d)

/-! ### Completion leaves both combatants alone -/

theorem completeDefeat_frame {d : Draft} {reason : DefeatReason} :
    Frame d.state (completeDefeat d reason).state := rfl

/-- **Ending an encounter touches neither what it carries nor the combatants nor the rolls.** -/
theorem finishForHealthTransition_spec {d : Draft} {targetId : String} :
    Frame d.state (finishForHealthTransition d targetId).2.state ∧
      (finishForHealthTransition d targetId).2.state.hero = d.state.hero ∧
      (finishForHealthTransition d targetId).2.state.creature = d.state.creature ∧
      (finishForHealthTransition d targetId).2.rolls = d.rolls := by
  unfold finishForHealthTransition
  split
  · exact ⟨rfl, rfl, rfl, rfl⟩
  · split
    · split
      · exact ⟨rfl, rfl, rfl, rfl⟩
      · exact ⟨rfl, rfl, rfl, rfl⟩
      · exact ⟨rfl, rfl, rfl, rfl⟩
    · exact ⟨rfl, rfl, rfl, rfl⟩

end ManchesterArcana.Encounter
