import ManchesterArcana.Encounter.Types

/-!
# `Encounter.Combatant` — attacks, hero snapshots and combatants, and when they are valid

Each validator of the source is embedded as it is written, next to a structure that names what it accepts;
`validate_eq_ok` identifies the two. Proofs about the engine work with the structures.
-/

namespace ManchesterArcana.Encounter

open Effect Rules

/-! ## Attacks -/

namespace EncounterAttack

/-- A set of the modifier ids is smaller than the list exactly when an id repeats. -/
def validate (a : EncounterAttack) : EncounterResult Unit :=
  rejectIf (isValidOpaqueId a.attackId = false ∨ a.rangeFeet = 0 ∨ a.rangeFeet > 320 ∨
      a.attackModifiers = [] ∨ a.attackModifiers.length > 4 ∨
      ¬ (a.attackModifiers.map (·.sourceId)).Nodup ∨
      (∃ m ∈ a.attackModifiers, isValidOpaqueId m.sourceId = false) ∨
      checkedSum minI16 maxI16 0 (a.attackModifiers.map (·.value.toInt)) = none ∨
      isValidOpaqueId a.damageModifier.sourceId = false ∨ a.damageDieSides ∉ [4, 6, 8, 10, 12])
    (.invalidState "encounter attack identity, range, modifiers, or damage die is invalid")

structure Valid (a : EncounterAttack) : Prop where
  attackId : isValidOpaqueId a.attackId = true
  range_pos : a.rangeFeet ≠ 0
  range_le : a.rangeFeet ≤ 320
  modifiers_ne : a.attackModifiers ≠ []
  modifiers_le : a.attackModifiers.length ≤ 4
  modifiers_nodup : (a.attackModifiers.map (·.sourceId)).Nodup
  modifierIds : ∀ m ∈ a.attackModifiers, isValidOpaqueId m.sourceId = true
  modifiers_sum : checkedSum minI16 maxI16 0 (a.attackModifiers.map (·.value.toInt)) ≠ none
  damageModifierId : isValidOpaqueId a.damageModifier.sourceId = true
  damageDie : a.damageDieSides ∈ [4, 6, 8, 10, 12]

theorem validate_eq_ok {a : EncounterAttack} : a.validate = .ok () ↔ a.Valid := by
  simp only [validate, rejectIf_eq_ok, not_or, not_not, Bool.not_eq_false, Nat.not_lt, not_exists]
  constructor
  · rintro ⟨h₁, h₂, h₃, h₄, h₅, h₆, h₇, h₈, h₉, h₁₀⟩
    refine ⟨h₁, h₂, h₃, h₄, h₅, h₆, fun m hm => ?_, h₈, h₉, h₁₀⟩
    by_contra hid
    exact h₇ m ⟨hm, by simpa using hid⟩
  · intro hv
    refine ⟨hv.attackId, hv.range_pos, hv.range_le, hv.modifiers_ne, hv.modifiers_le, hv.modifiers_nodup,
      ?_, hv.modifiers_sum, hv.damageModifierId, hv.damageDie⟩
    rintro m ⟨hm, hid⟩
    rw [hv.modifierIds m hm] at hid
    exact absurd hid (by decide)

theorem creatureAttack_valid : creatureAttack.Valid := validate_eq_ok.mp (by decide)

end EncounterAttack

/-! ## Hero snapshots -/

namespace EncounterHeroRulesProfile

def validate (p : EncounterHeroRulesProfile) : EncounterResult Unit := do
  p.runtimeResources.validate.mapError fun _ => .invalidState "hero runtime resources are invalid"
  rejectIf (∃ m ∈ p.constitutionModifier, ¬ constitutionInRange m)
    (.invalidState "hero constitution modifier is outside the supported range")
  match p.runtimeResources.heroClass, p.spellcasting with
  | .fighter, none => return ()
  | .wizard, some spellcasting =>
    rejectIf (spellcasting.casterId ≠ canalWardenId)
      (.invalidState "hero class and spellcasting snapshot do not match")
    spellcasting.validate.mapError fun _ => .invalidState "hero spellcasting snapshot is invalid"
  | _, _ => .error (.invalidState "hero class and spellcasting snapshot do not match")

/-- A fighter has no spellcasting; a wizard has the valid spellcasting of the Canal Warden. -/
def CastingShape (p : EncounterHeroRulesProfile) : Prop :=
  match p.runtimeResources.heroClass with
  | .fighter => p.spellcasting = none
  | .wizard => ∃ c, p.spellcasting = some c ∧ c.casterId = canalWardenId ∧ c.Valid

structure Valid (p : EncounterHeroRulesProfile) : Prop where
  resources : p.runtimeResources.Valid
  constitution : ∀ m ∈ p.constitutionModifier, constitutionInRange m
  casting : p.CastingShape

theorem validate_eq_ok {p : EncounterHeroRulesProfile} : p.validate = .ok () ↔ p.Valid := by
  have hcon : (¬ ∃ m ∈ p.constitutionModifier, ¬ constitutionInRange m) ↔
      ∀ m ∈ p.constitutionModifier, constitutionInRange m := by
    simp only [not_exists, not_and, not_not]
  have hcast : (match p.runtimeResources.heroClass, p.spellcasting with
      | .fighter, none => return ()
      | .wizard, some spellcasting => do
        rejectIf (spellcasting.casterId ≠ canalWardenId)
          (.invalidState "hero class and spellcasting snapshot do not match")
        spellcasting.validate.mapError fun _ => .invalidState "hero spellcasting snapshot is invalid"
      | _, _ => .error (.invalidState "hero class and spellcasting snapshot do not match") :
        EncounterResult Unit) = .ok () ↔ p.CastingShape := by
    unfold CastingShape
    cases p.runtimeResources.heroClass <;> rcases p.spellcasting with _ | c <;>
      simp [SpellcastingState.validate_eq_ok]
  simp only [validate, seq_eq_ok, mapError_eq_ok, rejectIf_eq_ok, hcon, hcast,
    RuntimeResources.validate_eq_ok]
  constructor
  · rintro ⟨hr, hc, hs⟩
    exact ⟨hr, hc, hs⟩
  · intro hv
    exact ⟨hv.resources, hv.constitution, hv.casting⟩

end EncounterHeroRulesProfile

namespace EncounterHeroProfile

def validate (p : EncounterHeroProfile) : EncounterResult Unit := do
  rejectIf (isValidOpaqueId p.sourceCharacterId = false ∨ isBlank p.name ∨ p.name.length > 120 ∨
      p.armorClass = 0 ∨ p.speedFeet = 0 ∨ ¬ 5 ∣ p.speedFeet ∨ p.currentHitPoints = 0 ∨
      p.currentHitPoints > p.maximumHitPoints ∨ p.attacks = [] ∨ p.attacks.length > 8 ∨
      ¬ (p.attacks.map (·.attackId)).Nodup)
    (.invalidState "authoritative hero combat profile is invalid")
  checkAll EncounterAttack.validate p.attacks
  match p.rules with
  | some rules => rules.validate
  | none => return ()

structure Valid (p : EncounterHeroProfile) : Prop where
  sourceCharacterId : isValidOpaqueId p.sourceCharacterId = true
  name_ne : isBlank p.name = false
  name_le : p.name.length ≤ 120
  armorClass : p.armorClass ≠ 0
  speed_pos : p.speedFeet ≠ 0
  speed_grid : 5 ∣ p.speedFeet
  current_pos : p.currentHitPoints ≠ 0
  current_le : p.currentHitPoints ≤ p.maximumHitPoints
  attacks_ne : p.attacks ≠ []
  attacks_le : p.attacks.length ≤ 8
  attacks_nodup : (p.attacks.map (·.attackId)).Nodup
  attacks : ∀ a ∈ p.attacks, a.Valid
  rules : ∀ r ∈ p.rules, r.Valid

theorem validate_eq_ok {p : EncounterHeroProfile} : p.validate = .ok () ↔ p.Valid := by
  have hrules : (match p.rules with
      | some rules => rules.validate
      | none => (return () : EncounterResult Unit)) = .ok () ↔ ∀ r ∈ p.rules, r.Valid := by
    rcases p.rules with _ | r <;> simp [EncounterHeroRulesProfile.validate_eq_ok]
  simp only [validate, seq_eq_ok, rejectIf_eq_ok, checkAll_eq_ok, not_or, not_not,
    Bool.not_eq_false, Bool.not_eq_true, Nat.not_lt, hrules, EncounterAttack.validate_eq_ok]
  constructor
  · rintro ⟨⟨h₁, h₂, h₃, h₄, h₅, h₆, h₇, h₈, h₉, h₁₀, h₁₁⟩, ha, hr⟩
    exact ⟨h₁, h₂, h₃, h₄, h₅, h₆, h₇, h₈, h₉, h₁₀, h₁₁, ha, hr⟩
  · intro hv
    exact ⟨⟨hv.sourceCharacterId, hv.name_ne, hv.name_le, hv.armorClass, hv.speed_pos, hv.speed_grid,
      hv.current_pos, hv.current_le, hv.attacks_ne, hv.attacks_le, hv.attacks_nodup⟩, hv.attacks,
      hv.rules⟩

end EncounterHeroProfile

/-! ## Combatants -/

namespace CombatantState

/-- A combatant that carries an authoritative hero snapshot. -/
def heroProfileFieldsValid (c : CombatantState) : Bool :=
  decide (c.kind = .hero) && c.sourceCharacterId.isSome && decide (c.attacks ≠ [])

/-- Life status against hit points, the same for hero and creature. -/
def validateLife (c : CombatantState) : EncounterResult Unit :=
  match c.lifeStatus with
  | .conscious => rejectIf (c.hitPoints.current = 0)
      (.invalidState "a conscious combatant must have positive hit points")
  | .unconscious | .stable | .dead => rejectIf (c.hitPoints.current ≠ 0)
      (.invalidState "a non-conscious combatant must have zero hit points")

/-- Death saves of a hero that is up or dying. -/
def validateHeroLife (c : CombatantState) : EncounterResult Unit :=
  match c.lifeStatus with
  | .conscious => rejectIf (c.hitPoints.deathSaves ≠ {})
      (.invalidState "a conscious hero must have cleared death saves")
  | .unconscious => rejectIf (c.hitPoints.deathSaves.successes ≥ 3 ∨ c.hitPoints.deathSaves.failures ≥ 3)
      (.invalidState "an unconscious hero cannot have a terminal death-save count")
  | _ => .ok ()

def validate (c : CombatantState) (map : EncounterMap) : EncounterResult Unit := do
  rejectIf (isValidOpaqueId c.id = false ∨ isBlank c.name ∨ c.name.length > 120 ∨
      (∃ id ∈ c.sourceCharacterId, isValidOpaqueId id = false) ∨ c.armorClass = 0 ∨ c.speedFeet = 0 ∨
      c.positionFeet < map.minimumPositionFeet ∨ c.positionFeet > map.maximumPositionFeet ∨
      ¬ 5 ∣ c.positionFeet ∨ c.hitPoints.maximum = 0 ∨ c.hitPoints.current > c.hitPoints.maximum ∨
      c.hitPoints.temporary > c.hitPoints.maximum ∨ c.hitPoints.deathSaves.successes > 3 ∨
      c.hitPoints.deathSaves.failures > 3)
    (.invalidState "combatant identity, statistics, position, or hit points are invalid")
  rejectIf (c.attacks.length > 8 ∨ ¬ (c.attacks.map (·.attackId)).Nodup)
    (.invalidState "combatant attacks must be bounded and unique")
  checkAll EncounterAttack.validate c.attacks
  rejectIf (¬ c.statusEffects.Nodup) (.invalidState "combatant status effects must be unique")
  c.validateLife
  rejectIf (c.lifeStatus = .stable ∧ c.hitPoints.deathSaves.successes ≠ 3)
    (.invalidState "a stable hero must have three successful death saves")
  rejectIf (c.lifeStatus = .dead ∧ c.kind = .hero ∧ c.hitPoints.deathSaves.failures ≠ 3)
    (.invalidState "a dead hero must record three failed death saves")
  rejectIf (c.kind = .creature ∧
      (c.sourceCharacterId.isSome ∨ c.attacks ≠ [] ∨ c.hitPoints.deathSaves ≠ {}))
    (.invalidState "the fixed creature cannot have a hero source, custom attacks, or death saves")
  rejectIf (c.kind = .creature ∧ c.lifeStatus ≠ .conscious ∧ c.lifeStatus ≠ .dead)
    (.invalidState "the fixed creature is either conscious or dead")
  if c.kind = .hero then c.validateHeroLife

/-- What the life status says about hit points and death saves. -/
def LifeShape (c : CombatantState) : Prop :=
  match c.kind, c.lifeStatus with
  | .hero, .conscious => c.hitPoints.current ≠ 0 ∧ c.hitPoints.deathSaves = {}
  | .hero, .unconscious => c.hitPoints.current = 0 ∧ c.hitPoints.deathSaves.successes < 3 ∧
      c.hitPoints.deathSaves.failures < 3
  | .hero, .stable => c.hitPoints.current = 0 ∧ c.hitPoints.deathSaves.successes = 3
  | .hero, .dead => c.hitPoints.current = 0 ∧ c.hitPoints.deathSaves.failures = 3
  | .creature, .conscious => c.hitPoints.current ≠ 0 ∧ c.hitPoints.deathSaves = {}
  | .creature, .dead => c.hitPoints.current = 0 ∧ c.hitPoints.deathSaves = {}
  | .creature, _ => False

structure Valid (c : CombatantState) (map : EncounterMap) : Prop where
  id : isValidOpaqueId c.id = true
  name_ne : isBlank c.name = false
  name_le : c.name.length ≤ 120
  sourceCharacterId : ∀ id ∈ c.sourceCharacterId, isValidOpaqueId id = true
  armorClass : c.armorClass ≠ 0
  speed_pos : c.speedFeet ≠ 0
  position_ge : map.minimumPositionFeet ≤ c.positionFeet
  position_le : c.positionFeet ≤ map.maximumPositionFeet
  position_grid : 5 ∣ c.positionFeet
  maximum_pos : c.hitPoints.maximum ≠ 0
  current_le : c.hitPoints.current ≤ c.hitPoints.maximum
  temporary_le : c.hitPoints.temporary ≤ c.hitPoints.maximum
  successes_le : c.hitPoints.deathSaves.successes ≤ 3
  failures_le : c.hitPoints.deathSaves.failures ≤ 3
  attacks_le : c.attacks.length ≤ 8
  attacks_nodup : (c.attacks.map (·.attackId)).Nodup
  attacks : ∀ a ∈ c.attacks, a.Valid
  effects_nodup : c.statusEffects.Nodup
  life : c.LifeShape
  creature : c.kind = .creature → c.sourceCharacterId = none ∧ c.attacks = []

/-- The five life checks together say what `LifeShape` and `Valid.creature` say. -/
theorem life_checks {c : CombatantState} :
    (c.validateLife = .ok () ∧ ¬ (c.lifeStatus = .stable ∧ c.hitPoints.deathSaves.successes ≠ 3) ∧
      ¬ (c.lifeStatus = .dead ∧ c.kind = .hero ∧ c.hitPoints.deathSaves.failures ≠ 3) ∧
      ¬ (c.kind = .creature ∧ (c.sourceCharacterId.isSome ∨ c.attacks ≠ [] ∨ c.hitPoints.deathSaves ≠ {})) ∧
      ¬ (c.kind = .creature ∧ c.lifeStatus ≠ .conscious ∧ c.lifeStatus ≠ .dead) ∧
      (if c.kind = .hero then c.validateHeroLife else .ok ()) = .ok ()) ↔
    c.LifeShape ∧ (c.kind = .creature → c.sourceCharacterId = none ∧ c.attacks = []) := by
  unfold validateLife validateHeroLife LifeShape
  cases c.kind <;> cases c.lifeStatus <;> simp [not_or] <;> tauto

theorem validate_eq_ok {c : CombatantState} {map : EncounterMap} :
    c.validate map = .ok () ↔ c.Valid map := by
  have hsrc : (¬ ∃ id ∈ c.sourceCharacterId, isValidOpaqueId id = false) ↔
      ∀ id ∈ c.sourceCharacterId, isValidOpaqueId id = true := by
    simp only [not_exists, not_and, Bool.not_eq_false]
  have hif : (if c.kind = .hero then c.validateHeroLife else pure ()) =
      (if c.kind = .hero then c.validateHeroLife else .ok ()) := rfl
  simp only [validate, seq_eq_ok, rejectIf_eq_ok, checkAll_eq_ok, hif, EncounterAttack.validate_eq_ok]
  constructor
  · rintro ⟨hb, ha, hav, hn, hlife⟩
    obtain ⟨hshape, hcreature⟩ := life_checks.mp hlife
    simp only [not_or, not_not, Bool.not_eq_false, Bool.not_eq_true, Nat.not_lt, hsrc] at hb ha hn
    obtain ⟨h₁, h₂, h₃, h₄, h₅, h₆, h₇, h₈, h₉, h₁₀, h₁₁, h₁₂, h₁₃, h₁₄⟩ := hb
    exact ⟨h₁, h₂, h₃, h₄, h₅, h₆, h₇, h₈, h₉, h₁₀, h₁₁, h₁₂, h₁₃, h₁₄, ha.1, ha.2, hav, hn, hshape,
      hcreature⟩
  · intro hv
    simp only [not_or, not_not, Bool.not_eq_false, Bool.not_eq_true, Nat.not_lt, hsrc]
    refine ⟨⟨hv.id, hv.name_ne, hv.name_le, hv.sourceCharacterId, hv.armorClass, hv.speed_pos,
      hv.position_ge, hv.position_le, hv.position_grid, hv.maximum_pos, hv.current_le, hv.temporary_le,
      hv.successes_le, hv.failures_le⟩, ⟨hv.attacks_le, hv.attacks_nodup⟩, hv.attacks, hv.effects_nodup, ?_⟩
    simpa only [not_or, not_not] using life_checks.mpr ⟨hv.life, hv.creature⟩

end CombatantState

end ManchesterArcana.Encounter
