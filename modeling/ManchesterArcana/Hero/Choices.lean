import ManchesterArcana.Core.Roll
import ManchesterArcana.Hero.Basic
import ManchesterArcana.TypedGm.Proposals

/-!
# `Hero.Choices` — what a player chooses for a hero

The choices are pins to the content they were made under, a class, the standard array, a background, a loadout, the
spells of a wizard and the presentation. `HeroChoices.validate` checks each of them, and the spells against the
intelligence that the array gives.
-/

namespace ManchesterArcana.Hero

open Effect TypedGm

/-! ## Pins -/

inductive ThemeId where
  | rainboundBorough
  | emberlineArchive
  deriving DecidableEq

def coreContentPackId : String := "dev.manchester-arcana.core-mvp"
def mvpPackVersion : String := "1.0.0"

def ThemeId.packId : ThemeId → String
  | .rainboundBorough => "dev.manchester-arcana.rainbound-borough"
  | .emberlineArchive => "dev.manchester-arcana.emberline-archive"

/-- The digests of the core content and of a theme that were published together. -/
structure PinSet where
  core : String
  theme : ThemeId → String

def currentPins : PinSet where
  core := "sha256:ec42825e68316f286c027dbbc1a08d0dfa9f4f97c304d5685b178c933a5ca924"
  theme
    | .rainboundBorough => "sha256:40178f823a99cafebc469ff73e2d99d0598370f87c65fd19fd7a343188a51563"
    | .emberlineArchive => "sha256:7b5111871e335835875e4df80d1fb7394e8321d7dd11b7a037aa5607e6c05b50"

def legacyPreLiveRulesPins : PinSet where
  core := "sha256:f50b1f745125e4ce20f33242c28a415f912b627e1e0f8c9472342e0ec3dd4c8b"
  theme
    | .rainboundBorough => "sha256:8fca395feb4bae6cbb243ce3663f1501f728797f241df21930548f7232a4d636"
    | .emberlineArchive => "sha256:a48cd02c1fcd2aa192c4bd88ad21f63c9ea7fcfee7348e4ad26ee43257b9a641"

def legacyDevPins : PinSet where
  core := "sha256:0fd02e550b122dba3e327ab05123f3ca3ce859293adda3e0666d0601ccda6296"
  theme
    | .rainboundBorough => "sha256:aaf09a3c878e2fe8d0c7e348efa4c5167d073b8e42f215cbaff345ba9adf23c8"
    | .emberlineArchive => "sha256:9980929a5790b9ca25d7e5cf58623f889c6476d5f50b4ba6af80b78c4f1876b2"

structure PackPin where
  packId : String
  version : String
  digest : Sha256Digest
  deriving DecidableEq

def PackPin.validateExact (pin : PackPin) (field expectedId : String) : HeroResult Unit := do
  validateId field pin.packId
  rejectIf (pin.packId ≠ expectedId ∨ pin.version ≠ mvpPackVersion)
    (.invalidField field "pack id or immutable version is outside the MVP pin set")

structure HeroPins where
  rulesetId : RulesetId
  coreContent : PackPin
  themeId : ThemeId
  theme : PackPin
  deriving DecidableEq

namespace HeroPins

/-- The pins that new heroes are created with. -/
def mvp (themeId : ThemeId) : HeroPins where
  rulesetId := .srd51
  coreContent := ⟨coreContentPackId, mvpPackVersion, ⟨currentPins.core⟩⟩
  themeId := themeId
  theme := ⟨themeId.packId, mvpPackVersion, ⟨currentPins.theme themeId⟩⟩

/-- The content and the theme are those of one set of pins. -/
def Matches (p : HeroPins) (pins : PinSet) : Prop :=
  p.coreContent.digest.value = pins.core ∧ p.theme.digest.value = pins.theme p.themeId

instance (p : HeroPins) (pins : PinSet) : Decidable (p.Matches pins) := inferInstanceAs (Decidable (_ ∧ _))

def isLegacyDevAlias (p : HeroPins) : Bool :=
  decide (p.Matches legacyDevPins) || decide (p.Matches legacyPreLiveRulesPins)

def validate (p : HeroPins) : HeroResult Unit := do
  rejectIf (p.rulesetId ≠ .srd51) (.invalidField "ruleset_id" "only srd-5.1-cc is supported")
  p.coreContent.validateExact "core_content" coreContentPackId
  p.theme.validateExact "theme" p.themeId.packId
  rejectIf (¬ p.Matches currentPins ∧ p.isLegacyDevAlias = false)
    (.invalidField "pins.digest" "content and theme digests must match a retained immutable pin set")

/-- **New heroes are pinned to a set that is accepted.** -/
theorem mvp_validates (themeId : ThemeId) : (mvp themeId).validate = .ok () := by
  have hcore : isValidOpaqueId coreContentPackId = true := by decide
  have htheme : isValidOpaqueId themeId.packId = true := by
    cases themeId <;> decide
  simp only [validate, PackPin.validateExact, seq_eq_ok, rejectIf_eq_ok, validateId_eq_ok]
  refine ⟨not_not.mpr rfl, ⟨hcore, ?_⟩, ⟨htheme, ?_⟩, fun h => h.1 ⟨rfl, rfl⟩⟩
  · rintro (hid | hversion)
    · exact hid rfl
    · exact hversion rfl
  · rintro (hid | hversion)
    · exact hid rfl
    · exact hversion rfl

end HeroPins

/-! ## Class, background and presentation -/

inductive HeroConceptId where
  | canalGuardian
  | archiveSeeker
  deriving DecidableEq

inductive AncestryId where
  | human
  deriving DecidableEq

inductive BackgroundId where
  | soldier
  | sage
  deriving DecidableEq

inductive SkillId where
  | acrobatics
  | animalHandling
  | arcana
  | athletics
  | deception
  | history
  | insight
  | intimidation
  | investigation
  | medicine
  | nature
  | perception
  | performance
  | persuasion
  | religion
  | sleightOfHand
  | stealth
  | survival
  deriving DecidableEq

namespace SkillId

def all : List SkillId :=
  [.acrobatics, .animalHandling, .arcana, .athletics, .deception, .history, .insight, .intimidation, .investigation,
    .medicine, .nature, .perception, .performance, .persuasion, .religion, .sleightOfHand, .stealth, .survival]

def ability : SkillId → Ability
  | athletics => .strength
  | acrobatics | sleightOfHand | stealth => .dexterity
  | arcana | history | investigation | nature | religion => .intelligence
  | animalHandling | insight | medicine | perception | survival => .wisdom
  | deception | intimidation | performance | persuasion => .charisma

end SkillId

def BackgroundId.skillProficiencies : BackgroundId → List SkillId
  | .soldier => [.athletics, .intimidation]
  | .sage => [.arcana, .history]

def classSkillChoices : HeroClass → List SkillId
  | .fighter =>
    [.acrobatics, .animalHandling, .athletics, .history, .insight, .intimidation, .perception, .survival]
  | .wizard => [.arcana, .history, .insight, .investigation, .medicine, .religion]

inductive FightingStyleId where
  | defense
  | dueling
  deriving DecidableEq

inductive ClassSelection where
  | fighter (fightingStyle : FightingStyleId)
  | wizard
  deriving DecidableEq

/-- `ClassSelection::class`. -/
def ClassSelection.heroClass : ClassSelection → HeroClass
  | .fighter _ => .fighter
  | .wizard => .wizard

structure BackgroundSelection where
  background : BackgroundId
  classSkills : List SkillId
  deriving DecidableEq

namespace BackgroundSelection

def validateFor (b : BackgroundSelection) (heroClass : HeroClass) : HeroResult Unit := do
  validateSortedUnique "background.class_skills" SkillId.ctorIdx b.classSkills
  rejectIf (b.classSkills.length ≠ 2)
    (.invalidField "background.class_skills" "exactly two class skills are required")
  rejectIf (∃ skill ∈ b.classSkills,
      skill ∉ classSkillChoices heroClass ∨ skill ∈ b.background.skillProficiencies)
    (.invalidField "background.class_skills"
      "class skills must meet class prerequisites and cannot duplicate background skills")

def allSkills (b : BackgroundSelection) : List SkillId :=
  (b.classSkills ++ b.background.skillProficiencies).insertionSort fun x y => x.ctorIdx ≤ y.ctorIdx

end BackgroundSelection

def maxNameChars : Nat := 80
def maxPronounChars : Nat := 60
def maxPresentationChars : Nat := 500
def maxToneLimitChars : Nat := 120
def maxToneLimits : Nat := 8

structure HeroPresentation where
  name : String
  pronouns : String
  appearance : String
  ideal : String
  bond : String
  flaw : String
  toneLimits : List String
  deriving DecidableEq

/-- Tone limits are texts, none of which may have been seen before. -/
def validateToneLimits : List String → List String → HeroResult Unit
  | _, [] => .ok ()
  | seen, limit :: limits => do
    validateText "presentation.tone_limits" limit maxToneLimitChars true
    rejectIf (limit ∈ seen) (.invalidField "presentation.tone_limits" "tone limits must be unique")
    validateToneLimits (limit :: seen) limits

def HeroPresentation.validate (p : HeroPresentation) : HeroResult Unit := do
  validateText "presentation.name" p.name maxNameChars true
  validateText "presentation.pronouns" p.pronouns maxPronounChars true
  checkAll (fun text : String × String => validateText text.1 text.2 maxPresentationChars true)
    [ ("presentation.appearance", p.appearance)
    , ("presentation.ideal", p.ideal)
    , ("presentation.bond", p.bond)
    , ("presentation.flaw", p.flaw) ]
  rejectIf (maxToneLimits < p.toneLimits.length)
    (.invalidField "presentation.tone_limits" "too many tone limits")
  validateToneLimits [] p.toneLimits

/-! ## Equipment -/

def allEquipment : List EquipmentId :=
  [.simpleWeapons, .longsword, .lightCrossbow, .shield, .chainMail, .leatherArmor, .explorersPack, .scholarsPack,
    .spellbook, .arcaneFocus]

inductive SimpleWeaponId where
  | club
  | dagger
  | greatclub
  | handaxe
  | javelin
  | lightHammer
  | mace
  | quarterstaff
  | sickle
  | spear
  deriving DecidableEq

namespace SimpleWeaponId

def wizardAllowed : SimpleWeaponId → Bool
  | dagger | quarterstaff => true
  | _ => false

def isTwoHanded : SimpleWeaponId → Bool
  | greatclub => true
  | _ => false

/-- The name the debug formatter prints, in lower case. -/
def lowerName : SimpleWeaponId → String
  | club => "club"
  | dagger => "dagger"
  | greatclub => "greatclub"
  | handaxe => "handaxe"
  | javelin => "javelin"
  | lightHammer => "lighthammer"
  | mace => "mace"
  | quarterstaff => "quarterstaff"
  | sickle => "sickle"
  | spear => "spear"

end SimpleWeaponId

structure EquipmentSelection where
  carried : List EquipmentId
  simpleWeapon : Option SimpleWeaponId
  equippedArmor : Option EquipmentId
  shieldEquipped : Bool
  deriving DecidableEq

/-- What is worn on the body. -/
def IsBodyArmor (item : EquipmentId) : Prop := item = .chainMail ∨ item = .leatherArmor

instance (item : EquipmentId) : Decidable (IsBodyArmor item) := inferInstanceAs (Decidable (_ ∨ _))

namespace EquipmentSelection

/-- The body armor that is carried is worn, and none is worn that is not carried. -/
def armorMatches (e : EquipmentSelection) : Bool :=
  match e.equippedArmor with
  | some armor => decide (IsBodyArmor armor) && decide (armor ∈ e.carried)
  | none => decide (.chainMail ∉ e.carried) && decide (.leatherArmor ∉ e.carried)

/-- How many of some items are carried. -/
def countCarried (e : EquipmentSelection) (items : List EquipmentId) : Nat :=
  (items.filter fun item => decide (item ∈ e.carried)).length

def wizardLoadout : List EquipmentId := [.simpleWeapons, .scholarsPack, .spellbook, .arcaneFocus]

def validateFor (e : EquipmentSelection) (selection : ClassSelection) : HeroResult Unit := do
  validateSortedUnique "equipment.carried" EquipmentId.ctorIdx e.carried
  rejectIf (allEquipment.length < e.carried.length)
    (.invalidField "equipment.carried" "too many carried equipment entries")
  rejectIf (decide (.simpleWeapons ∈ e.carried) ≠ e.simpleWeapon.isSome)
    (.invalidField "equipment.simple_weapon"
      "a concrete simple weapon is required exactly when the category is carried")
  rejectIf (.chainMail ∈ e.carried ∧ .leatherArmor ∈ e.carried)
    (.invalidField "equipment.carried" "chain mail and leather armor are mutually exclusive starting choices")
  rejectIf (e.shieldEquipped ≠ decide (.shield ∈ e.carried))
    (.invalidField "equipment.shield_equipped" "the starting shield must be carried and equipped together")
  rejectIf (e.armorMatches = false)
    (.invalidField "equipment.equipped_armor" "equipped armor must match the one carried armor choice")
  match selection with
  | .fighter fightingStyle => do
    rejectIf (e.countCarried [.chainMail, .leatherArmor] ≠ 1 ∨ e.countCarried [.simpleWeapons, .longsword] ≠ 1 ∨
        .lightCrossbow ∉ e.carried ∨ .explorersPack ∉ e.carried ∨ .scholarsPack ∈ e.carried ∨
        .spellbook ∈ e.carried ∨ .arcaneFocus ∈ e.carried)
      (.invalidField "equipment" <|
        "fighter equipment must contain one supported armor, one supported melee choice, a light crossbow, " ++
        "and an explorer's pack")
    rejectIf (e.simpleWeapon.any SimpleWeaponId.isTwoHanded = true ∧ e.shieldEquipped = true)
      (.invalidField "equipment" "a two-handed simple weapon and shield cannot be equipped together")
    rejectIf (fightingStyle = .dueling ∧ e.simpleWeapon.any SimpleWeaponId.isTwoHanded = true)
      (.invalidField "class.fighting_style" "dueling requires a supported one-handed melee weapon")
  | .wizard =>
    rejectIf (e.carried ≠ wizardLoadout ∨ e.equippedArmor.isSome = true ∨ e.shieldEquipped = true ∨
        e.simpleWeapon.any SimpleWeaponId.wizardAllowed = false)
      (.invalidField "equipment" <|
        "wizard equipment is one supported wizard simple weapon, a scholar's pack, spellbook, and arcane focus")

/-- What a valid loadout is good for: what is carried and what is worn agree. -/
structure Fits (e : EquipmentSelection) (selection : ClassSelection) : Prop where
  sorted : StrictlySorted EquipmentId.ctorIdx e.carried
  short : e.carried.length ≤ allEquipment.length
  simple : EquipmentId.simpleWeapons ∈ e.carried ↔ e.simpleWeapon.isSome = true
  shield : e.shieldEquipped = true ↔ EquipmentId.shield ∈ e.carried
  worn : ∀ armor, e.equippedArmor = some armor → IsBodyArmor armor ∧ armor ∈ e.carried
  armed : e.simpleWeapon.isSome = true ∨ EquipmentId.lightCrossbow ∈ e.carried
  armored : e.equippedArmor.isSome = true ↔ selection.heroClass = .fighter

theorem fits_of_validateFor {e : EquipmentSelection} {selection : ClassSelection}
    (h : e.validateFor selection = .ok ()) : e.Fits selection := by
  unfold validateFor at h
  obtain ⟨hsorted, h⟩ := seq_eq_ok.mp h
  obtain ⟨hshort, h⟩ := seq_eq_ok.mp h
  obtain ⟨hsimple, h⟩ := seq_eq_ok.mp h
  obtain ⟨-, h⟩ := seq_eq_ok.mp h
  obtain ⟨hshield, h⟩ := seq_eq_ok.mp h
  obtain ⟨harmor, h⟩ := seq_eq_ok.mp h
  rw [validateSortedUnique_eq_ok] at hsorted
  rw [rejectIf_eq_ok, Nat.not_lt] at hshort
  rw [rejectIf_eq_ok, not_not] at hsimple hshield
  rw [rejectIf_eq_ok, Bool.not_eq_false] at harmor
  have hworn : ∀ armor, e.equippedArmor = some armor → IsBodyArmor armor ∧ armor ∈ e.carried := by
    intro armor hsome
    rw [armorMatches, hsome, Bool.and_eq_true, decide_eq_true_eq, decide_eq_true_eq] at harmor
    exact harmor
  have hbare : e.equippedArmor = none → EquipmentId.chainMail ∉ e.carried ∧ EquipmentId.leatherArmor ∉ e.carried := by
    intro hnone
    rw [armorMatches, hnone, Bool.and_eq_true, decide_eq_true_eq, decide_eq_true_eq] at harmor
    exact harmor
  refine ⟨hsorted, hshort, ?_, ?_, hworn, ?_, ?_⟩
  · rw [← hsimple, decide_eq_true_eq]
  · rw [hshield, decide_eq_true_eq]
  · cases selection with
    | fighter style =>
      obtain ⟨hitems, -⟩ := seq_eq_ok.mp h
      rw [rejectIf_eq_ok] at hitems
      exact .inr (by_contra fun hmem => hitems (.inr (.inr (.inl hmem))))
    | wizard =>
      rw [rejectIf_eq_ok] at h
      have hcarried : e.carried = wizardLoadout := by_contra fun hne => h (.inl hne)
      left
      rw [← hsimple, hcarried]
      rfl
  · cases selection with
    | fighter style =>
      obtain ⟨hitems, -⟩ := seq_eq_ok.mp h
      rw [rejectIf_eq_ok, not_or, not_not] at hitems
      refine iff_of_true ?_ rfl
      -- a fighter carries one suit of armor, so going without is not an option
      by_contra hnone
      obtain ⟨hchain, hleather⟩ := hbare (Option.not_isSome_iff_eq_none.mp hnone)
      have hcount : e.countCarried [.chainMail, .leatherArmor] = 0 := by
        simp [countCarried, hchain, hleather]
      rw [hcount] at hitems
      exact absurd hitems.1 (by decide)
    | wizard =>
      rw [rejectIf_eq_ok] at h
      refine iff_of_false (fun hsome => h (.inr (.inl hsome))) ?_
      intro hclass
      cases hclass

end EquipmentSelection

/-! ## A wizard's spells -/

def allSpells : List SpellId := [.fireBolt, .light, .mageHand, .magicMissile, .shield, .sleep]

/-- How many spells are prepared: level plus intelligence, at least one and at most all there are. -/
def preparedSpellCapacity (level : Nat) (intelligenceModifier : Int8) : Nat :=
  (min (max ((level : Int) + intelligenceModifier.toInt) 1) SpellId.levelOne.length).toNat

structure WizardSpellSelection where
  cantrips : List SpellId
  spellbook : List SpellId
  prepared : List SpellId
  deriving DecidableEq

def WizardSpellSelection.validateCreation (s : WizardSpellSelection) (intelligenceModifier : Int8) :
    HeroResult Unit := do
  validateSortedUnique "wizard_spells.cantrips" SpellId.ctorIdx s.cantrips
  validateSortedUnique "wizard_spells.spellbook" SpellId.ctorIdx s.spellbook
  validateSortedUnique "wizard_spells.prepared" SpellId.ctorIdx s.prepared
  rejectIf (s.cantrips ≠ SpellId.cantrips ∨ s.spellbook ≠ SpellId.levelOne)
    (.invalidField "wizard_spells"
      "the MVP wizard must record the complete fixed cantrip and spellbook allowlists")
  rejectIf (s.prepared.length ≠ preparedSpellCapacity 1 intelligenceModifier ∨
      ∃ spell ∈ s.prepared, spell ∉ s.spellbook)
    (.invalidField "wizard_spells.prepared"
      "prepared spells must be a unique spellbook subset at the level-one capacity")

/-- **Growing in level never takes a prepared spell away.** -/
theorem preparedSpellCapacity_mono {level level' : Nat} (h : level ≤ level') (intelligenceModifier : Int8) :
    preparedSpellCapacity level intelligenceModifier ≤ preparedSpellCapacity level' intelligenceModifier := by
  unfold preparedSpellCapacity
  omega

theorem WizardSpellSelection.prepared_length {s : WizardSpellSelection} {intelligenceModifier : Int8}
    (h : s.validateCreation intelligenceModifier = .ok ()) :
    s.prepared.length = preparedSpellCapacity 1 intelligenceModifier := by
  simp only [validateCreation, seq_eq_ok, rejectIf_eq_ok, not_or, not_not] at h
  exact h.2.2.2.2.1

/-! ## All choices -/

structure HeroChoices where
  pins : HeroPins
  concept : HeroConceptId
  ancestry : AncestryId
  heroClass : ClassSelection
  abilityAssignment : StandardArrayAssignment
  background : BackgroundSelection
  equipment : EquipmentSelection
  wizardSpells : Option WizardSpellSelection
  presentation : HeroPresentation
  deriving DecidableEq

namespace HeroChoices

def validate (c : HeroChoices) : HeroResult Unit := do
  c.pins.validate
  rejectIf (c.ancestry ≠ .human) (.invalidField "ancestry" "only the supported human ancestry is available")
  c.abilityAssignment.validate
  c.background.validateFor c.heroClass.heroClass
  c.equipment.validateFor c.heroClass
  c.presentation.validate
  let scores ← c.abilityAssignment.humanScores
  match c.heroClass, c.wizardSpells with
  | .wizard, some spells => spells.validateCreation (scores.get .intelligence).modifier
  | .wizard, none =>
    .error (.invalidField "wizard_spells" "wizard creation requires the fixed supported spell selection")
  | .fighter _, none => .ok ()
  | .fighter _, some _ =>
    .error (.invalidField "wizard_spells" "fighter creation cannot carry a wizard spell selection")

/-- What a sheet can be derived from. -/
structure Valid (c : HeroChoices) (scores : AbilityScores) : Prop where
  validates : c.validate = .ok ()
  ability : c.abilityAssignment.validate = .ok ()
  human : c.abilityAssignment.humanScores = .ok scores
  equipment : c.equipment.validateFor c.heroClass = .ok ()
  caster : c.wizardSpells.isSome = true ↔ c.heroClass.heroClass = .wizard
  spells : ∀ s, c.wizardSpells = some s → s.validateCreation (scores.get .intelligence).modifier = .ok ()

theorem valid_of_validate {c : HeroChoices} (h : c.validate = .ok ()) : ∃ scores, c.Valid scores := by
  have hvalidates := h
  unfold validate at h
  obtain ⟨-, h⟩ := seq_eq_ok.mp h
  obtain ⟨-, h⟩ := seq_eq_ok.mp h
  obtain ⟨hability, h⟩ := seq_eq_ok.mp h
  obtain ⟨-, h⟩ := seq_eq_ok.mp h
  obtain ⟨hequipment, h⟩ := seq_eq_ok.mp h
  obtain ⟨-, h⟩ := seq_eq_ok.mp h
  obtain ⟨scores, hscores, h⟩ := bind_eq_ok.mp h
  refine ⟨scores, hvalidates, hability, hscores, hequipment, ?_, ?_⟩
  · rcases hclass : c.heroClass with style | _ <;> rcases hspells : c.wizardSpells with _ | spells
    · exact iff_of_false (fun h => nomatch h) (fun h => nomatch h)
    · rw [hclass, hspells] at h
      cases h
    · rw [hclass, hspells] at h
      cases h
    · exact iff_of_true rfl rfl
  · intro spells hspells
    rcases hclass : c.heroClass with style | _
    · rw [hclass, hspells] at h
      cases h
    · rw [hclass, hspells] at h
      exact h

end HeroChoices

end ManchesterArcana.Hero
