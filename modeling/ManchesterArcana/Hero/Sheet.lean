import ManchesterArcana.Hero.Choices

/-!
# `Hero.Sheet` — the sheet that is derived from a hero's choices

`deriveSheet` computes everything a sheet says from the choices, the level and what was chosen on the way to it.
`deriveSheet_ok` is its totality: valid choices have a sheet at each level that they have the advancement for.
`Derives` keeps, of a sheet that was derived, what the runtime of a hero is checked against.
-/

namespace ManchesterArcana.Hero

open Effect

def heroDerivedSheetSchemaVersion : Nat := 1
def heroDerivationId : String := "manchester-arcana:hero-derivation:v1"
def startingLoadoutPolicyId : String := "manchester-arcana:capacity:authored-starting-loadout-v1"

/-! ## What a sheet says -/

inductive FeatureAvailability where
  | active
  | dormantNoQualifyingSupportedSpell
  deriving DecidableEq

structure FeatureSummary where
  feature : FeatureId
  availability : FeatureAvailability
  deriving DecidableEq

structure SavingThrowSummary where
  ability : Ability
  proficient : Bool
  modifier : Int8
  deriving DecidableEq

structure SkillSummary where
  skill : SkillId
  proficient : Bool
  modifier : Int8
  deriving DecidableEq

structure PassiveValues where
  perception : Int8
  investigation : Int8
  insight : Int8
  deriving DecidableEq

structure DamageDice where
  count : Nat
  sides : Nat
  constant : Int8
  deriving DecidableEq

inductive WeaponChoice where
  | simple (kind : SimpleWeaponId)
  | longsword
  | lightCrossbow
  deriving DecidableEq

structure AttackSummary where
  attackId : String
  weapon : WeaponChoice
  ability : Ability
  attackBonus : Int8
  damage : DamageDice
  damageType : DamageType
  normalRangeFeet : Nat
  longRangeFeet : Option Nat
  versatileDamageSides : Option Nat
  deriving DecidableEq

structure ResourcePool where
  resource : ResourceKind
  current : Nat
  maximum : Nat
  recoversOn : RestKind
  deriving DecidableEq

structure EquipmentState where
  carried : List EquipmentId
  simpleWeapon : Option SimpleWeaponId
  equippedArmor : Option EquipmentId
  shieldEquipped : Bool
  capacityPolicyId : String
  deriving DecidableEq

inductive SpellActionKind where
  | action
  | reaction
  deriving DecidableEq

inductive SpellTargetKind where
  | rangedSpellAttack
  | touchedObject
  | utilityHand
  | chosenCreatures
  | selfOnHitTrigger
  | pointAreaHitPointPool
  deriving DecidableEq

inductive SpellDuration where
  | instantaneous
  | oneRound
  | oneMinute
  | oneHour
  deriving DecidableEq

structure SpellEffectCapability where
  spell : SpellId
  action : SpellActionKind
  target : SpellTargetKind
  rangeFeet : Nat
  duration : SpellDuration
  damageType : Option DamageType
  appliesCondition : Option ConditionId
  spendsLevelOneSlot : Bool
  deriving DecidableEq

structure SpellcastingSummary where
  ability : Ability
  spellAttackBonus : Int8
  spellSaveDc : Nat
  cantrips : List SpellId
  spellbook : List SpellId
  prepared : List SpellId
  preparedCapacity : Nat
  effects : List SpellEffectCapability
  deriving DecidableEq

structure DerivedHeroSheet where
  schemaVersion : Nat
  derivationId : String
  level : SupportedLevel
  proficiencyBonus : Nat
  baseScores : AbilityScores
  abilityScores : AbilityScores
  abilityModifiers : AbilityModifiers
  armorClass : Nat
  speedFeet : Nat
  maximumHitPoints : Nat
  currentHitPoints : Nat
  savingThrows : List SavingThrowSummary
  skills : List SkillSummary
  passiveValues : PassiveValues
  attacks : List AttackSummary
  resources : List ResourcePool
  equipment : EquipmentState
  spellcasting : Option SpellcastingSummary
  features : List FeatureSummary
  legalActionCapabilities : List ActionCapability
  deriving DecidableEq

/-! ## What was chosen on the way -/

inductive HitPointGrowthChoice where
  | fixedAverage
  deriving DecidableEq

inductive ArcaneTraditionId where
  | evocation
  deriving DecidableEq

inductive LevelUpChoice where
  | fighter (hitPoints : HitPointGrowthChoice)
  | wizard (hitPoints : HitPointGrowthChoice) (arcaneTradition : ArcaneTraditionId)
  deriving DecidableEq

/-- `LevelUpChoice::class`. -/
def LevelUpChoice.heroClass : LevelUpChoice → HeroClass
  | .fighter _ => .fighter
  | .wizard _ _ => .wizard

/-! ## Derivations -/

/-- The armor class of the equipped armor, before a shield and the class. -/
def wornArmorClass (equippedArmor : Option EquipmentId) (modifiers : AbilityModifiers) : HeroResult Int :=
  match equippedArmor with
  | some .chainMail => .ok 16
  | some .leatherArmor => .ok (11 + modifiers.dexterity.toInt)
  | none => .ok (10 + modifiers.dexterity.toInt)
  | some _ => .error (.invalidField "equipment.equipped_armor" "the selected item is not supported armor")

def deriveArmorClass (heroClass : ClassSelection) (equipment : EquipmentSelection) (modifiers : AbilityModifiers) :
    HeroResult Nat := do
  equipment.validateFor heroClass
  let worn ← wornArmorClass equipment.equippedArmor modifiers
  let shielded := if equipment.shieldEquipped then worn + 2 else worn
  let armorClass := if heroClass = .fighter .defense then shielded + 1 else shielded
  rejectIf (armorClass < 0 ∨ 255 < armorClass)
    (.invalidField "armor_class" "derived armor class was outside the supported range")
  return armorClass.toNat

def deriveMaximumHitPoints (heroClass : HeroClass) (level : SupportedLevel) (modifiers : AbilityModifiers) : Nat :=
  let constitution := modifiers.constitution.toInt
  let levelOne := max (heroClass.hitDieSides + constitution) 1
  let levelTwo := max ((match heroClass with | .fighter => 6 | .wizard => 4) + constitution) 1
  (levelOne + if level = .two then levelTwo else 0).toNat

def allAbilities : List Ability := [.strength, .dexterity, .constitution, .intelligence, .wisdom, .charisma]

def deriveSavingThrows (heroClass : HeroClass) (modifiers : AbilityModifiers) (proficiencyBonus : Nat) :
    List SavingThrowSummary :=
  let proficient : List Ability := match heroClass with
    | .fighter => [.strength, .constitution]
    | .wizard => [.intelligence, .wisdom]
  allAbilities.map fun ability =>
    { ability
      proficient := decide (ability ∈ proficient)
      modifier := modifiers.get ability + if ability ∈ proficient then .ofNat proficiencyBonus else 0 }

def deriveSkills (background : BackgroundSelection) (modifiers : AbilityModifiers) (proficiencyBonus : Nat) :
    List SkillSummary :=
  SkillId.all.map fun skill =>
    { skill
      proficient := decide (skill ∈ background.allSkills)
      modifier := modifiers.get skill.ability + if skill ∈ background.allSkills then .ofNat proficiencyBonus else 0 }

def skillModifier (skills : List SkillSummary) (wanted : SkillId) : Int8 :=
  match skills.find? (·.skill = wanted) with
  | some skill => skill.modifier
  | none => 0

/-- Sides, damage type, finesse, normal range, long range and versatile sides of a simple weapon. -/
def SimpleWeaponId.profile : SimpleWeaponId → Nat × DamageType × Bool × Nat × Option Nat × Option Nat
  | .club => (4, .bludgeoning, false, 5, none, none)
  | .dagger => (4, .piercing, true, 5, some 60, none)
  | .greatclub => (8, .bludgeoning, false, 5, none, none)
  | .handaxe => (6, .slashing, false, 5, some 60, none)
  | .javelin => (6, .piercing, false, 5, some 120, none)
  | .lightHammer => (4, .bludgeoning, false, 5, some 60, none)
  | .mace => (6, .bludgeoning, false, 5, none, none)
  | .quarterstaff => (6, .bludgeoning, false, 5, none, some 8)
  | .sickle => (4, .slashing, false, 5, none, none)
  | .spear => (6, .piercing, false, 5, some 60, some 8)

def simpleWeaponAttack (weapon : SimpleWeaponId) (modifiers : AbilityModifiers) (proficiencyBonus : Int8)
    (dueling : Bool) : AttackSummary :=
  let (sides, damageType, finesse, normalRange, longRange, versatile) := weapon.profile
  let ability : Ability := if finesse && modifiers.dexterity > modifiers.strength then .dexterity else .strength
  { attackId := "attack:simple:" ++ weapon.lowerName
    weapon := .simple weapon
    ability
    attackBonus := modifiers.get ability + proficiencyBonus
    damage :=
      { count := 1
        sides
        constant := modifiers.get ability + if dueling && !weapon.isTwoHanded then 2 else 0 }
    damageType
    normalRangeFeet := normalRange
    longRangeFeet := longRange
    versatileDamageSides := versatile }

def deriveAttacks (heroClass : ClassSelection) (equipment : EquipmentSelection) (modifiers : AbilityModifiers) :
    HeroResult (List AttackSummary) := do
  let proficiencyBonus : Int8 := 2
  let dueling : Bool := heroClass = .fighter .dueling
  let simple := (equipment.simpleWeapon.map fun weapon =>
    simpleWeaponAttack weapon modifiers proficiencyBonus dueling).toList
  let longsword : List AttackSummary :=
    if .longsword ∈ equipment.carried then
      [{ attackId := "attack:longsword"
         weapon := .longsword
         ability := .strength
         attackBonus := modifiers.strength + proficiencyBonus
         damage :=
          { count := 1
            sides := if !equipment.shieldEquipped && !dueling then 10 else 8
            constant := modifiers.strength + if dueling then 2 else 0 }
         damageType := .slashing
         normalRangeFeet := 5
         longRangeFeet := none
         versatileDamageSides := some 10 }]
    else []
  let crossbow : List AttackSummary :=
    if .lightCrossbow ∈ equipment.carried then
      [{ attackId := "attack:light-crossbow"
         weapon := .lightCrossbow
         ability := .dexterity
         attackBonus := modifiers.dexterity + proficiencyBonus
         damage := { count := 1, sides := 8, constant := modifiers.dexterity }
         damageType := .piercing
         normalRangeFeet := 80
         longRangeFeet := some 320
         versatileDamageSides := none }]
    else []
  rejectIf (simple ++ longsword ++ crossbow = [])
    (.invalidField "attacks" "the supported loadout must derive at least one attack")
  return simple ++ longsword ++ crossbow

/-- A pool that nothing has been taken out of. -/
def ResourcePool.full (resource : ResourceKind) (maximum : Nat) (recoversOn : RestKind) : ResourcePool :=
  { resource, current := maximum, maximum, recoversOn }

def deriveResources (heroClass : HeroClass) (level : SupportedLevel) : List ResourcePool :=
  match heroClass with
  | .fighter =>
    [.full .hitDiceD10 level.value .long, .full .secondWind 1 .short] ++
      if level = .two then [.full .actionSurge 1 .short] else []
  | .wizard =>
    [ .full .hitDiceD6 level.value .long
    , .full .levelOneSpellSlots (if level = .one then 2 else 3) .long
    , .full .arcaneRecovery 1 .long ]

def spellEffectCapability (spell : SpellId) : SpellEffectCapability :=
  match spell with
  | .fireBolt =>
    { spell, action := .action, target := .rangedSpellAttack, rangeFeet := 120, duration := .instantaneous
      damageType := some .fire, appliesCondition := none, spendsLevelOneSlot := false }
  | .light =>
    { spell, action := .action, target := .touchedObject, rangeFeet := 0, duration := .oneHour
      damageType := none, appliesCondition := none, spendsLevelOneSlot := false }
  | .mageHand =>
    { spell, action := .action, target := .utilityHand, rangeFeet := 30, duration := .oneMinute
      damageType := none, appliesCondition := none, spendsLevelOneSlot := false }
  | .magicMissile =>
    { spell, action := .action, target := .chosenCreatures, rangeFeet := 120, duration := .instantaneous
      damageType := some .force, appliesCondition := none, spendsLevelOneSlot := true }
  | .shield =>
    { spell, action := .reaction, target := .selfOnHitTrigger, rangeFeet := 0, duration := .oneRound
      damageType := none, appliesCondition := none, spendsLevelOneSlot := true }
  | .sleep =>
    { spell, action := .action, target := .pointAreaHitPointPool, rangeFeet := 90, duration := .oneMinute
      damageType := none, appliesCondition := some .unconscious, spendsLevelOneSlot := true }

def deriveSpellcasting (choices : HeroChoices) (level : SupportedLevel) (modifiers : AbilityModifiers)
    (proficiencyBonus : Nat) : HeroResult (Option SpellcastingSummary) :=
  match choices.wizardSpells with
  | none => .ok none
  | some selection => do
    rejectIf (choices.heroClass.heroClass ≠ .wizard)
      (.invalidField "wizard_spells" "only a wizard can derive spellcasting")
    let preparedCapacity := preparedSpellCapacity level.value modifiers.intelligence
    rejectIf (preparedCapacity < selection.prepared.length)
      (.invalidField "wizard_spells.prepared" "stored prepared spells exceed the current capacity")
    let saveDc : Int := 8 + modifiers.intelligence.toInt + proficiencyBonus
    rejectIf (saveDc < 0 ∨ 255 < saveDc)
      (.invalidField "spell_save_dc" "derived spell save DC was outside the supported range")
    return some
      { ability := .intelligence
        spellAttackBonus := modifiers.intelligence + .ofNat proficiencyBonus
        spellSaveDc := saveDc.toNat
        cantrips := selection.cantrips
        spellbook := selection.spellbook
        prepared := selection.prepared
        preparedCapacity
        effects := allSpells.map spellEffectCapability }

def deriveFeatures (heroClass : ClassSelection) (level : SupportedLevel) : List FeatureSummary :=
  match heroClass with
  | .fighter fightingStyle =>
    [ ⟨match fightingStyle with | .defense => .fightingStyleDefense | .dueling => .fightingStyleDueling, .active⟩
    , ⟨.secondWind, .active⟩ ] ++
      if level = .two then [⟨.actionSurge, .active⟩] else []
  | .wizard =>
    [⟨.wizardSpellcasting, .active⟩, ⟨.arcaneRecovery, .active⟩] ++
      if level = .two then
        [⟨.evocationTradition, .active⟩, ⟨.sculptSpells, .dormantNoQualifyingSupportedSpell⟩]
      else []

def coreActions : List ActionCapability :=
  [.attack, .castSupportedSpell, .dash, .disengage, .dodge, .help, .hide, .ready, .search, .useObject]

def legalActionCapabilities (heroClass : HeroClass) (level : SupportedLevel) : List ActionCapability :=
  if heroClass = .fighter then
    coreActions.filter (· ≠ .castSupportedSpell) ++ [.secondWind] ++ if level = .two then [.actionSurge] else []
  else coreActions

/-- One choice of the hero's class was made for level two, and none for level one. -/
def checkAdvancement (choices : HeroChoices) (level : SupportedLevel) (advancementChoices : List LevelUpChoice) :
    HeroResult Unit :=
  match level with
  | .one => rejectIf (advancementChoices ≠ [])
    (.invalidField "advancement_choices" "a level-one hero cannot contain level-up choices")
  | .two => rejectIf (advancementChoices.map LevelUpChoice.heroClass ≠ [choices.heroClass.heroClass])
    (.invalidField "advancement_choices" "level two requires one explicit class-matching level-up choice")

def deriveSheet (choices : HeroChoices) (level : SupportedLevel) (advancementChoices : List LevelUpChoice) :
    HeroResult DerivedHeroSheet := do
  choices.validate
  checkAdvancement choices level advancementChoices
  let baseScores ← choices.abilityAssignment.baseScores
  let abilityScores ← choices.abilityAssignment.humanScores
  let modifiers := AbilityModifiers.fromScores abilityScores
  let proficiencyBonus := 2
  let heroClass := choices.heroClass.heroClass
  let armorClass ← deriveArmorClass choices.heroClass choices.equipment modifiers
  let speedFeet := if choices.equipment.equippedArmor = some .chainMail ∧ (abilityScores.get .strength).value < 13
    then 20 else 30
  let maximumHitPoints := deriveMaximumHitPoints heroClass level modifiers
  let skills := deriveSkills choices.background modifiers proficiencyBonus
  let attacks ← deriveAttacks choices.heroClass choices.equipment modifiers
  let spellcasting ← deriveSpellcasting choices level modifiers proficiencyBonus
  return {
    schemaVersion := heroDerivedSheetSchemaVersion
    derivationId := heroDerivationId
    level
    proficiencyBonus
    baseScores
    abilityScores
    abilityModifiers := modifiers
    armorClass
    speedFeet
    maximumHitPoints
    currentHitPoints := maximumHitPoints
    savingThrows := deriveSavingThrows heroClass modifiers proficiencyBonus
    skills
    passiveValues :=
      { perception := 10 + skillModifier skills .perception
        investigation := 10 + skillModifier skills .investigation
        insight := 10 + skillModifier skills .insight }
    attacks
    resources := deriveResources heroClass level
    equipment :=
      { carried := choices.equipment.carried
        simpleWeapon := choices.equipment.simpleWeapon
        equippedArmor := choices.equipment.equippedArmor
        shieldEquipped := choices.equipment.shieldEquipped
        capacityPolicyId := startingLoadoutPolicyId }
    spellcasting
    features := deriveFeatures choices.heroClass level
    legalActionCapabilities := legalActionCapabilities heroClass level }

/-! ## Every derivation has a result -/

/-- The armor class of what is worn. -/
def armorBase (worn : Option EquipmentId) (dexterity : Int) : Int :=
  match worn with
  | some .chainMail => 16
  | some .leatherArmor => 11 + dexterity
  | _ => 10 + dexterity

/-- The armor class of what is worn, with a shield and the defensive style on top. -/
def armorClassOf (worn : Option EquipmentId) (shield defense : Bool) (dexterity : Int) : Int :=
  armorBase worn dexterity + (if shield = true then 2 else 0) + if defense = true then 1 else 0

/-- An armor class is a small number. -/
theorem armorClassOf_bounds (worn : Option EquipmentId) (shield defense : Bool) {dexterity : Int}
    (hdex : -5 ≤ dexterity ∧ dexterity ≤ 10) :
    ¬ (armorClassOf worn shield defense dexterity < 0 ∨ 255 < armorClassOf worn shield defense dexterity) := by
  have hbase : 5 ≤ armorBase worn dexterity ∧ armorBase worn dexterity ≤ 21 := by
    unfold armorBase
    split <;> omega
  unfold armorClassOf
  split <;> split <;> omega

/-- Bonuses taken one after the other add up. -/
theorem bonuses_eq (base : Int) (shield defense : Prop) [Decidable shield] [Decidable defense] :
    (if defense then (if shield then base + 2 else base) + 1 else if shield then base + 2 else base) =
      base + (if decide shield = true then 2 else 0) + if decide defense = true then 1 else 0 := by
  simp only [decide_eq_true_eq]
  split <;> split <;> omega

theorem wornArmorClass_ok {worn : Option EquipmentId} {modifiers : AbilityModifiers}
    (h : ∀ armor, worn = some armor → IsBodyArmor armor) :
    wornArmorClass worn modifiers = .ok (armorBase worn modifiers.dexterity.toInt) := by
  cases worn with
  | none => rfl
  | some armor => rcases h armor rfl with rfl | rfl <;> rfl

variable {choices : HeroChoices} {equipment : EquipmentSelection} {scores : AbilityScores} {level : SupportedLevel}
  {advancementChoices : List LevelUpChoice}

theorem deriveArmorClass_ok {heroClass : ClassSelection}
    (h : equipment.validateFor heroClass = .ok ()) (modifiers : AbilityModifiers)
    (hdex : -5 ≤ modifiers.dexterity.toInt ∧ modifiers.dexterity.toInt ≤ 10) :
    deriveArmorClass heroClass equipment modifiers =
      .ok (armorClassOf equipment.equippedArmor equipment.shieldEquipped (heroClass = .fighter .defense)
        modifiers.dexterity.toInt).toNat := by
  have hworn := (EquipmentSelection.fits_of_validateFor h).worn
  have hbounds := armorClassOf_bounds equipment.equippedArmor equipment.shieldEquipped
    (heroClass = .fighter .defense) hdex
  unfold deriveArmorClass
  rw [h, ok_bind, wornArmorClass_ok fun armor harmor => (hworn armor harmor).1, ok_bind]
  dsimp only
  rw [bonuses_eq, Bool.decide_eq_true]
  exact congrArg (· >>= fun _ => _) (rejectIf_of_not hbounds)

/-- A hero has something to attack with. -/
theorem deriveAttacks_ok {heroClass : ClassSelection}
    (h : equipment.validateFor heroClass = .ok ()) (modifiers : AbilityModifiers) :
    ∃ attacks, deriveAttacks heroClass equipment modifiers = .ok attacks := by
  unfold deriveAttacks
  dsimp only
  rw [rejectIf_of_not, ok_bind]
  · exact ⟨_, rfl⟩
  · rw [List.append_eq_nil_iff, List.append_eq_nil_iff]
    rintro ⟨⟨hsimple, -⟩, hcrossbow⟩
    rcases (EquipmentSelection.fits_of_validateFor h).armed with harmed | harmed
    · obtain ⟨weapon, hweapon⟩ := Option.isSome_iff_exists.mp harmed
      rw [hweapon] at hsimple
      cases hsimple
    · rw [if_pos harmed] at hcrossbow
      cases hcrossbow

/-- What was prepared at level one still fits at every level. -/
theorem deriveSpellcasting_ok (hv : choices.Valid scores)
    (level : SupportedLevel) :
    ∃ spellcasting, deriveSpellcasting choices level (.fromScores scores) 2 = .ok spellcasting := by
  unfold deriveSpellcasting
  cases hspells : choices.wizardSpells with
  | none => exact ⟨none, rfl⟩
  | some selection =>
    have hclass : choices.heroClass.heroClass = .wizard := hv.caster.mp (by rw [hspells]; rfl)
    have hprepared := WizardSpellSelection.prepared_length (hv.spells selection hspells)
    have hlevel : 1 ≤ level.value := by cases level <;> decide
    have hcapacity := preparedSpellCapacity_mono hlevel (scores.get .intelligence).modifier
    have hbounds := (scores.get .intelligence).modifier_bounds
    dsimp only
    rw [rejectIf_of_not (not_not.mpr hclass), ok_bind, rejectIf_of_not, ok_bind, rejectIf_of_not, ok_bind]
    · exact ⟨_, rfl⟩
    · show ¬ (8 + (scores.get .intelligence).modifier.toInt + (2 : Int) < 0 ∨
        255 < 8 + (scores.get .intelligence).modifier.toInt + (2 : Int))
      omega
    · show ¬ preparedSpellCapacity level.value (scores.get .intelligence).modifier < selection.prepared.length
      omega

/-! ## What a derived sheet says -/

/-- A sheet of the choices at a level, as far as the runtime of a hero is concerned. -/
structure Derives (choices : HeroChoices) (level : SupportedLevel) (scores : AbilityScores)
    (sheet : DerivedHeroSheet) : Prop where
  valid : choices.Valid scores
  abilityScores : sheet.abilityScores = scores
  armorClass : sheet.armorClass = (armorClassOf choices.equipment.equippedArmor choices.equipment.shieldEquipped
    (choices.heroClass = .fighter .defense) (scores.get .dexterity).modifier.toInt).toNat
  maximumHitPoints : sheet.maximumHitPoints =
    deriveMaximumHitPoints choices.heroClass.heroClass level (.fromScores scores)
  currentHitPoints : sheet.currentHitPoints = sheet.maximumHitPoints
  resources : sheet.resources = deriveResources choices.heroClass.heroClass level
  equipment : sheet.equipment =
    { carried := choices.equipment.carried
      simpleWeapon := choices.equipment.simpleWeapon
      equippedArmor := choices.equipment.equippedArmor
      shieldEquipped := choices.equipment.shieldEquipped
      capacityPolicyId := startingLoadoutPolicyId }
  features : sheet.features = deriveFeatures choices.heroClass level

/-- **Valid choices have a sheet at each level that they have the advancement for.** -/
theorem deriveSheet_ok (hv : choices.Valid scores)
    (hadvancement : checkAdvancement choices level advancementChoices = .ok ()) :
    ∃ sheet, deriveSheet choices level advancementChoices = .ok sheet ∧ Derives choices level scores sheet := by
  obtain ⟨base, hbase⟩ := StandardArrayAssignment.baseScores_ok hv.ability
  have harmor := deriveArmorClass_ok hv.equipment (.fromScores scores) (scores.get .dexterity).modifier_bounds
  obtain ⟨attacks, hattacks⟩ := deriveAttacks_ok hv.equipment (.fromScores scores)
  obtain ⟨spellcasting, hspellcasting⟩ := deriveSpellcasting_ok hv level
  unfold deriveSheet
  rw [hv.validates, ok_bind, hadvancement, ok_bind, hbase, ok_bind, hv.human, ok_bind]
  dsimp only
  rw [harmor, ok_bind, hattacks, ok_bind, hspellcasting, ok_bind]
  exact ⟨_, rfl, hv, rfl, rfl, rfl, rfl, rfl, rfl, rfl⟩

theorem derives_of_deriveSheet {sheet : DerivedHeroSheet}
    (h : deriveSheet choices level advancementChoices = .ok sheet) :
    checkAdvancement choices level advancementChoices = .ok () ∧ ∃ scores, Derives choices level scores sheet := by
  have hsheet := h
  unfold deriveSheet at h
  obtain ⟨hchoices, h⟩ := seq_eq_ok.mp h
  obtain ⟨hadvancement, -⟩ := seq_eq_ok.mp h
  obtain ⟨scores, hv⟩ := HeroChoices.valid_of_validate hchoices
  obtain ⟨sheet', hsheet', hderives⟩ := deriveSheet_ok hv hadvancement
  obtain rfl := Except.ok.inj (hsheet'.symm.trans hsheet)
  exact ⟨hadvancement, scores, hderives⟩

/-! ## Growing by a level -/

/-- Hit points are few, and a level adds at least one. -/
theorem maximumHitPoints_grows (heroClass : HeroClass) (scores : AbilityScores) :
    deriveMaximumHitPoints heroClass .one (.fromScores scores) <
        deriveMaximumHitPoints heroClass .two (.fromScores scores) ∧
      deriveMaximumHitPoints heroClass .two (.fromScores scores) ≤ 40 := by
  have hbounds := (scores.get .constitution).modifier_bounds
  have hcon : (AbilityModifiers.fromScores scores).constitution = (scores.get .constitution).modifier := rfl
  unfold deriveMaximumHitPoints
  rw [hcon]
  cases heroClass <;> simp only [HeroClass.hitDieSides, reduceCtorEq, if_false, if_true] <;> omega

/-- The pools that a class has are of different kinds. -/
theorem deriveResources_nodup (heroClass : HeroClass) (level : SupportedLevel) :
    ((deriveResources heroClass level).map (·.resource)).Nodup := by
  cases heroClass <;> cases level <;> decide

/-- **No pool is lost or made smaller by a level.** -/
theorem deriveResources_grows (heroClass : HeroClass) :
    ∀ pool ∈ deriveResources heroClass .one,
      ∃ grown ∈ deriveResources heroClass .two, grown.resource = pool.resource ∧ pool.maximum ≤ grown.maximum := by
  cases heroClass <;> decide

/-- Every pool of a derived sheet is full. -/
theorem deriveResources_full (heroClass : HeroClass) (level : SupportedLevel) :
    ∀ pool ∈ deriveResources heroClass level, pool.current = pool.maximum := by
  cases heroClass <;> cases level <;> decide

end ManchesterArcana.Hero
