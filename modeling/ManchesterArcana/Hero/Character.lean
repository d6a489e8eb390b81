import ManchesterArcana.Effect.Attempt
import ManchesterArcana.Hero.Sheet

/-!
# `Hero.Character` — a hero, and how it changes

A hero keeps its choices, its level and a sheet. The sheet is derived from the choices; only hit points and the
counters of its pools are the hero's own. `HeroCharacter.validate` derives the sheet again and compares, which
`validate_eq_ok` says as `HeroCharacter.Valid`. Three calls change a hero: a reward, a level, and the counters that
an encounter gives back.
-/

namespace ManchesterArcana.Hero

open Effect TypedGm

def heroCharacterSchemaVersion : Nat := 1
def heroCommandSchemaVersion : Nat := 1
def heroAuditSchemaVersion : Nat := 1

/-- `LEVEL_TWO_XP`, and the experience at which a hero would be due for level three. -/
def levelTwoXp : Nat := 300
def levelThreeXp : Nat := 900

/-- `u64::MAX`, the last revision. -/
def maxRevision : Nat := 2 ^ 64 - 1

structure HeroCharacter where
  schemaVersion : Nat
  characterId : String
  campaignId : String
  ownerId : String
  revision : Nat
  level : SupportedLevel
  experiencePoints : Nat
  choices : HeroChoices
  advancementChoices : List LevelUpChoice
  sheet : DerivedHeroSheet
  deriving DecidableEq

/-- Check the counters of a sheet, and put in their place those of the expected sheet. -/
def normalizeResources (expected : List ResourcePool) : List ResourcePool → HeroResult (List ResourcePool)
  | [] => .ok []
  | pool :: pools => do
    rejectIf (pool.maximum < pool.current)
      (.invalidField "sheet.resources.current" "a resource current value cannot exceed its derived maximum")
    let expectedPool ← okOr (expected.find? (·.resource = pool.resource))
      (.invalidField "sheet.resources" "runtime resources do not match the pinned class and level")
    let rest ← normalizeResources expected pools
    return { pool with current := expectedPool.current } :: rest

namespace HeroCharacter

def validateLevel (h : HeroCharacter) : HeroResult Unit :=
  match h.level with
  | .one => rejectIf (h.advancementChoices ≠ [])
    (.invalidField "advancement_choices" "level-one state cannot contain advancement choices")
  | .two => rejectIf (h.experiencePoints < levelTwoXp ∨
      h.advancementChoices.map LevelUpChoice.heroClass ≠ [h.choices.heroClass.heroClass])
    (.invalidField "advancement_choices" "level-two state requires eligibility and one matching explicit choice")

def validate (h : HeroCharacter) : HeroResult Unit := do
  requireSchema h.schemaVersion heroCharacterSchemaVersion
  validateId "character_id" h.characterId
  validateId "campaign_id" h.campaignId
  validateId "owner_id" h.ownerId
  h.choices.validate
  h.validateLevel
  rejectIf (levelThreeXp ≤ h.experiencePoints)
    (.invalidField "experience_points" "level-three eligibility is outside the level-one-to-two MVP")
  let expected ← deriveSheet h.choices h.level h.advancementChoices
  rejectIf (h.sheet.maximumHitPoints < h.sheet.currentHitPoints)
    (.invalidField "sheet.current_hit_points" "current hit points cannot exceed the derived maximum")
  rejectIf (h.sheet.resources.length ≠ expected.resources.length)
    (.invalidField "sheet.resources" "runtime resources do not match the pinned class and level")
  let resources ← normalizeResources expected.resources h.sheet.resources
  rejectIf ({ h.sheet with currentHitPoints := expected.currentHitPoints, resources } ≠ expected)
    (.invalidField "sheet" <|
      "stored derived state outside current HP/resources does not match the pinned explicit choices")

/-- A new hero, at level one. -/
def create (characterId campaignId ownerId : String) (choices : HeroChoices) : HeroResult HeroCharacter := do
  validateId "character_id" characterId
  validateId "campaign_id" campaignId
  validateId "owner_id" ownerId
  choices.validate
  let sheet ← deriveSheet choices .one []
  let character : HeroCharacter :=
    { schemaVersion := heroCharacterSchemaVersion
      characterId, campaignId, ownerId
      revision := 0
      level := .one
      experiencePoints := 0
      choices
      advancementChoices := []
      sheet }
  character.validate
  return character

end HeroCharacter

/-! ## Valid heroes -/

/-- The pool is the expected one, however far it is spent. -/
structure ResourcePool.Within (pool expected : ResourcePool) : Prop where
  resource : pool.resource = expected.resource
  maximum : pool.maximum = expected.maximum
  recoversOn : pool.recoversOn = expected.recoversOn
  current : pool.current ≤ pool.maximum

variable {α β : Type} {expected pools : List ResourcePool}

/-- Where keys are unique, looking for a member's key finds the member. -/
theorem find?_of_nodup [DecidableEq β] {key : α → β} {as : List α} (hnodup : (as.map key).Nodup) {a : α}
    (ha : a ∈ as) : as.find? (fun b => decide (key b = key a)) = some a := by
  cases hfind : as.find? (fun b => decide (key b = key a)) with
  | none => exact absurd (decide_eq_true rfl) (List.find?_eq_none.mp hfind a ha)
  | some b =>
    have hkey : decide (key b = key a) = true :=
      List.find?_some (p := fun b => decide (key b = key a)) hfind
    rw [List.inj_on_of_nodup_map hnodup (List.mem_of_find?_eq_some hfind) ha (of_decide_eq_true hkey)]

theorem forall₂_congr_mem {R S : α → β → Prop} {as : List α} {bs : List β}
    (h : ∀ a, ∀ b ∈ bs, R a b ↔ S a b) : List.Forall₂ R as bs ↔ List.Forall₂ S as bs := by
  induction bs generalizing as with
  | nil => rw [List.forall₂_nil_right_iff, List.forall₂_nil_right_iff]
  | cons b bs ih =>
    cases as with
    | nil => exact iff_of_false (fun h => nomatch h) (fun h => nomatch h)
    | cons a as =>
      rw [List.forall₂_cons, List.forall₂_cons, h a b List.mem_cons_self,
        ih fun a c hc => h a c (List.mem_cons_of_mem b hc)]

theorem normalizeResources_eq_ok {normalized : List ResourcePool} :
    normalizeResources expected pools = .ok normalized ↔
      List.Forall₂ (fun pool pool' => pool.current ≤ pool.maximum ∧
        ∃ e, expected.find? (·.resource = pool.resource) = some e ∧ pool' = { pool with current := e.current })
        pools normalized := by
  induction pools generalizing normalized with
  | nil =>
    rw [List.forall₂_nil_left_iff]
    rw [normalizeResources, Except.ok.injEq, eq_comm]
  | cons pool pools ih =>
    simp only [normalizeResources, bind_eq_ok, exists_unit, rejectIf_eq_ok, okOr_eq_ok, Nat.not_lt, pure_eq,
      Except.ok.injEq]
    rw [List.forall₂_cons_left_iff]
    constructor
    · rintro ⟨hle, e, hfind, rest, hrest, rfl⟩
      exact ⟨_, rest, ⟨hle, e, hfind, rfl⟩, ih.mp hrest, rfl⟩
    · rintro ⟨_, rest, ⟨hle, e, hfind, rfl⟩, hrest, rfl⟩
      exact ⟨hle, e, hfind, rest, ih.mpr hrest, rfl⟩

/-- **The counters are those of the expected pools, partly spent**, when normalizing gives the expected pools. -/
theorem normalizeResources_eq_expected
    (hnodup : (expected.map (·.resource)).Nodup) :
    normalizeResources expected pools = .ok expected ↔ List.Forall₂ ResourcePool.Within pools expected := by
  rw [normalizeResources_eq_ok]
  refine forall₂_congr_mem fun pool e he => ?_
  have hfind := find?_of_nodup hnodup he
  constructor
  · rintro ⟨hle, e', -, heq⟩
    rw [heq]
    exact ⟨rfl, rfl, rfl, hle⟩
  · rintro ⟨hresource, hmaximum, hrecovers, hle⟩
    refine ⟨hle, e, ?_, ?_⟩
    · rw [hresource]
      exact hfind
    · rw [hresource, hmaximum, hrecovers]

namespace HeroCharacter

/-- A hero of the expected sheet, with hit points and counters of its own. -/
structure Valid (h : HeroCharacter) (expected : DerivedHeroSheet) : Prop where
  schema : h.schemaVersion = heroCharacterSchemaVersion
  characterId : isValidOpaqueId h.characterId = true
  campaignId : isValidOpaqueId h.campaignId = true
  ownerId : isValidOpaqueId h.ownerId = true
  grown : h.level = .two → levelTwoXp ≤ h.experiencePoints
  experience : h.experiencePoints < levelThreeXp
  derived : deriveSheet h.choices h.level h.advancementChoices = .ok expected
  sheet : h.sheet =
    { expected with currentHitPoints := h.sheet.currentHitPoints, resources := h.sheet.resources }
  hitPoints : h.sheet.currentHitPoints ≤ h.sheet.maximumHitPoints
  resources : List.Forall₂ ResourcePool.Within h.sheet.resources expected.resources

variable {choices : HeroChoices} {h : HeroCharacter}

theorem nodup_of_deriveSheet {level : SupportedLevel} {advancement : List LevelUpChoice}
    {sheet : DerivedHeroSheet} (h : deriveSheet choices level advancement = .ok sheet) :
    (sheet.resources.map (·.resource)).Nodup := by
  obtain ⟨-, scores, hderives⟩ := derives_of_deriveSheet h
  rw [hderives.resources]
  exact deriveResources_nodup _ _

/-- The level has the advancement that its sheet needs. -/
theorem validateLevel_eq_ok :
    h.validateLevel = .ok () ↔
      checkAdvancement h.choices h.level h.advancementChoices = .ok () ∧
        (h.level = .two → levelTwoXp ≤ h.experiencePoints) := by
  unfold validateLevel checkAdvancement
  cases h.level with
  | one =>
    rw [rejectIf_eq_ok, rejectIf_eq_ok]
    exact ⟨fun hadv => ⟨hadv, fun hlevel => nomatch hlevel⟩, And.left⟩
  | two =>
    rw [rejectIf_eq_ok, rejectIf_eq_ok, not_or, Nat.not_lt]
    exact ⟨fun ⟨hxp, hadv⟩ => ⟨hadv, fun _ => hxp⟩, fun ⟨hadv, hxp⟩ => ⟨hxp rfl, hadv⟩⟩

/-- **The check decides validity.** -/
theorem validate_eq_ok : h.validate = .ok () ↔ ∃ expected, h.Valid expected := by
  simp only [validate, bind_eq_ok, exists_unit, requireSchema_eq_ok, validateId_eq_ok, rejectIf_eq_ok,
    validateLevel_eq_ok, Nat.not_le, Nat.not_lt, not_not]
  constructor
  · rintro ⟨hschema, hcharacter, hcampaign, howner, -, ⟨-, hgrown⟩, hxp, expected, hderived, hhp, -, resources,
      hnormalize, hsheet⟩
    have hresources : resources = expected.resources := congrArg DerivedHeroSheet.resources hsheet
    rw [hresources, normalizeResources_eq_expected (nodup_of_deriveSheet hderived)] at hnormalize
    refine ⟨expected, hschema, hcharacter, hcampaign, howner, hgrown, hxp, hderived, ?_, hhp, hnormalize⟩
    rw [← hsheet]
  · rintro ⟨expected, hv⟩
    have hchoices : h.choices.validate = .ok () := by
      obtain ⟨-, scores, hderives⟩ := derives_of_deriveSheet hv.derived
      exact hderives.valid.validates
    refine ⟨hv.schema, hv.characterId, hv.campaignId, hv.ownerId, hchoices,
      ⟨(derives_of_deriveSheet hv.derived).1, hv.grown⟩, hv.experience, expected, hv.derived, hv.hitPoints,
      hv.resources.length_eq, expected.resources,
      (normalizeResources_eq_expected (nodup_of_deriveSheet hv.derived)).mpr hv.resources, ?_⟩
    rw [hv.sheet]

/-- **Valid choices make a hero**, and it is valid. -/
theorem create_ok {characterId campaignId ownerId : String}
    (hcharacter : isValidOpaqueId characterId = true) (hcampaign : isValidOpaqueId campaignId = true)
    (howner : isValidOpaqueId ownerId = true) (hchoices : choices.validate = .ok ()) :
    ∃ hero, create characterId campaignId ownerId choices = .ok hero ∧ hero.validate = .ok () ∧
      hero.characterId = characterId ∧ hero.revision = 0 ∧ hero.experiencePoints = 0 := by
  obtain ⟨scores, hv⟩ := HeroChoices.valid_of_validate hchoices
  have hnone : checkAdvancement choices .one [] = .ok () := rfl
  obtain ⟨sheet, hsheet, hderives⟩ := deriveSheet_ok hv hnone
  have hpools : List.Forall₂ ResourcePool.Within sheet.resources sheet.resources := by
    rw [hderives.resources, List.forall₂_same]
    intro pool hpool
    exact ⟨rfl, rfl, rfl, Nat.le_of_eq (deriveResources_full _ _ pool hpool)⟩
  have hvalid : Valid ⟨heroCharacterSchemaVersion, characterId, campaignId, ownerId, 0, .one, 0, choices, [], sheet⟩
      sheet :=
    ⟨rfl, hcharacter, hcampaign, howner, fun h => (nomatch h), show 0 < 900 by decide, hsheet, rfl,
      Nat.le_of_eq hderives.currentHitPoints, hpools⟩
  have hvalidate := validate_eq_ok.mpr ⟨sheet, hvalid⟩
  refine ⟨_, ?_, hvalidate, rfl, rfl, rfl⟩
  refine seq_eq_ok.mpr ⟨validateId_eq_ok.mpr hcharacter, ?_⟩
  refine seq_eq_ok.mpr ⟨validateId_eq_ok.mpr hcampaign, ?_⟩
  refine seq_eq_ok.mpr ⟨validateId_eq_ok.mpr howner, ?_⟩
  refine seq_eq_ok.mpr ⟨hchoices, ?_⟩
  refine bind_eq_ok.mpr ⟨sheet, hsheet, ?_⟩
  exact seq_eq_ok.mpr ⟨hvalidate, rfl⟩

end HeroCharacter

/-! ## A guardian of the canals -/

/-- A fighter in chain mail, with shield and longsword. -/
def canalGuardian : HeroChoices where
  pins := .mvp .rainboundBorough
  concept := .canalGuardian
  ancestry := .human
  heroClass := .fighter .defense
  abilityAssignment := ⟨15, 14, 13, 12, 10, 8⟩
  background := ⟨.soldier, [.acrobatics, .animalHandling]⟩
  equipment :=
    { carried := [.longsword, .lightCrossbow, .shield, .chainMail, .explorersPack]
      simpleWeapon := none
      equippedArmor := some .chainMail
      shieldEquipped := true }
  wizardSpells := none
  presentation :=
    { name := "Mara Vale"
      pronouns := "they/them"
      appearance := "A weathered coat and a careful gaze."
      ideal := "Leave every street safer."
      bond := "The canal ward gave them a home."
      flaw := "They shoulder every burden alone."
      toneLimits := ["No graphic horror"] }

theorem canalGuardian_validates : canalGuardian.validate = .ok () := by
  unfold HeroChoices.validate
  rw [show canalGuardian.pins.validate = .ok () from HeroPins.mvp_validates _, ok_bind]
  decide

theorem canalGuardian_created :
    ∃ hero, HeroCharacter.create "hero:mara" "campaign:rain" "owner:one" canalGuardian = .ok hero ∧
      hero.validate = .ok () ∧ hero.characterId = "hero:mara" ∧ hero.revision = 0 ∧ hero.experiencePoints = 0 :=
  HeroCharacter.create_ok (by decide) (by decide) (by decide) canalGuardian_validates

end ManchesterArcana.Hero
