import ManchesterArcana.Hero.Progression

/-!
# `Hero.Creation` — making a hero step by step

A draft collects the choices for a hero in a fixed order, and every command fills in the next of them. What has been
filled in is checked at once, with what it depends on, so that nothing is left to fail at the end: a draft whose steps
are `Filled` with `Sound` values passes its whole check (`validate_eq_ok`), the review of the finished choices
included. So no draft is ever stuck, and a reviewed one becomes a hero (`creation_never_dead_ends`).
-/

namespace ManchesterArcana.Hero

open Effect
open Attempt (ends_lift_bind succeeds_lift_bind)

/-! ## Steps and commands -/

inductive CreationStep where
  | campaignTheme
  | concept
  | rules
  | abilityScores
  | background
  | equipmentAndSpells
  | presentation
  | review
  | commit
  | committed
  deriving DecidableEq

def CreationStep.ordinal : CreationStep → Nat
  | campaignTheme => 0
  | concept => 1
  | rules => 2
  | abilityScores => 3
  | background => 4
  | equipmentAndSpells => 5
  | presentation => 6
  | review => 7
  | commit => 8
  | committed => 9

/-- How a call on a draft stops short. -/
inductive CreationStop where
  | hero (e : HeroError)
  | draftStepMismatch (expected actual : CreationStep)
  /-- Something that was expected is missing. -/
  | panic (message : String)
  deriving DecidableEq

abbrev CreationResult (α : Type) := Except CreationStop α

inductive HeroCreationIntent where
  | selectCampaignTheme (pins : HeroPins)
  | selectConcept (concept : HeroConceptId)
  | selectRules (ancestry : AncestryId) (heroClass : ClassSelection)
  | assignAbilities (assignment : StandardArrayAssignment)
  | selectBackground (selection : BackgroundSelection)
  | selectEquipmentAndSpells (equipment : EquipmentSelection) (wizardSpells : Option WizardSpellSelection)
  | setPresentation (presentation : HeroPresentation)
  | review
  | commit (characterId : String)
  deriving DecidableEq

inductive HeroCreationAction where
  | campaignThemeSelected
  | conceptSelected
  | rulesSelected
  | abilitiesAssigned
  | backgroundSelected
  | equipmentAndSpellsSelected
  | presentationSet
  | reviewed
  | committed
  deriving DecidableEq

namespace HeroCreationIntent

def requiredStep : HeroCreationIntent → CreationStep
  | selectCampaignTheme _ => .campaignTheme
  | selectConcept _ => .concept
  | selectRules .. => .rules
  | assignAbilities _ => .abilityScores
  | selectBackground _ => .background
  | selectEquipmentAndSpells .. => .equipmentAndSpells
  | setPresentation _ => .presentation
  | review => .review
  | commit _ => .commit

def action : HeroCreationIntent → HeroCreationAction
  | selectCampaignTheme _ => .campaignThemeSelected
  | selectConcept _ => .conceptSelected
  | selectRules .. => .rulesSelected
  | assignAbilities _ => .abilitiesAssigned
  | selectBackground _ => .backgroundSelected
  | selectEquipmentAndSpells .. => .equipmentAndSpellsSelected
  | setPresentation _ => .presentationSet
  | review => .reviewed
  | commit _ => .committed

/-- What is checked of an intent before it meets the draft. -/
def validate : HeroCreationIntent → HeroResult Unit
  | selectCampaignTheme pins => pins.validate
  | assignAbilities assignment => assignment.validate
  | setPresentation presentation => presentation.validate
  | commit characterId => validateId "character_id" characterId
  | _ => .ok ()

end HeroCreationIntent

structure HeroCreationCommand where
  schemaVersion : Nat
  draftId : String
  expectedRevision : Nat
  idempotencyKey : String
  intent : HeroCreationIntent
  deriving DecidableEq

def HeroCreationCommand.validate (c : HeroCreationCommand) : HeroResult Unit := do
  requireSchema c.schemaVersion heroCommandSchemaVersion
  validateId "draft_id" c.draftId
  validateId "idempotency_key" c.idempotencyKey
  c.intent.validate

/-! ## Audits -/

structure HeroCreationTransitionAudit where
  schemaVersion : Nat
  auditId : String
  actorId : String
  draftId : String
  idempotencyKey : String
  revisionBefore : Nat
  revisionAfter : Nat
  stepBefore : CreationStep
  stepAfter : CreationStep
  action : HeroCreationAction
  occurredAtEpochSeconds : Nat
  deriving DecidableEq

/-- The action that takes a draft on from each step. -/
def CreationStep.expectedAction : CreationStep → HeroResult HeroCreationAction
  | campaignTheme => .ok .campaignThemeSelected
  | concept => .ok .conceptSelected
  | rules => .ok .rulesSelected
  | abilityScores => .ok .abilitiesAssigned
  | background => .ok .backgroundSelected
  | equipmentAndSpells => .ok .equipmentAndSpellsSelected
  | presentation => .ok .presentationSet
  | review => .ok .reviewed
  | commit => .ok .committed
  | committed => .error (.invalidField "creation_audit.step_before" "committed drafts have no next transition")

def HeroCreationTransitionAudit.validate (a : HeroCreationTransitionAudit) : HeroResult Unit := do
  requireSchema a.schemaVersion heroAuditSchemaVersion
  validateId "audit_id" a.auditId
  validateId "actor_id" a.actorId
  validateId "draft_id" a.draftId
  validateId "idempotency_key" a.idempotencyKey
  rejectIf (¬ SumsTo maxRevision a.revisionBefore 1 a.revisionAfter ∨
      a.stepAfter.ordinal ≠ a.stepBefore.ordinal + 1 ∨ a.occurredAtEpochSeconds = 0)
    (.invalidField "creation_audit" "transition audit must describe one adjacent revision and step")
  let expectedAction ← a.stepBefore.expectedAction
  rejectIf (a.action ≠ expectedAction)
    (.invalidField "creation_audit.action" "action does not match the recorded step transition")

structure CharacterCreatedAudit where
  schemaVersion : Nat
  auditId : String
  actorId : String
  draftId : String
  characterId : String
  campaignId : String
  draftRevision : Nat
  choices : HeroChoices
  derivedSheet : DerivedHeroSheet
  occurredAtEpochSeconds : Nat
  deriving DecidableEq

def CharacterCreatedAudit.validate (a : CharacterCreatedAudit) : HeroResult Unit := do
  requireSchema a.schemaVersion heroAuditSchemaVersion
  validateId "audit_id" a.auditId
  validateId "actor_id" a.actorId
  validateId "draft_id" a.draftId
  validateId "character_id" a.characterId
  validateId "campaign_id" a.campaignId
  a.choices.validate
  let sheet ← deriveSheet a.choices .one []
  rejectIf (a.derivedSheet ≠ sheet ∨ a.occurredAtEpochSeconds = 0)
    (.invalidField "character_created_audit" "created-character choices and derived sheet do not recompute")

structure HeroCreationOutcome where
  transitionAudit : HeroCreationTransitionAudit
  character : Option HeroCharacter
  createdAudit : Option CharacterCreatedAudit

/-! ## The draft -/

def heroDraftSchemaVersion : Nat := 1

structure HeroCreationDraft where
  schemaVersion : Nat
  draftId : String
  campaignId : String
  ownerId : String
  revision : Nat
  expiresAtEpochSeconds : Nat
  step : CreationStep
  pins : Option HeroPins
  concept : Option HeroConceptId
  ancestry : Option AncestryId
  heroClass : Option ClassSelection
  abilityAssignment : Option StandardArrayAssignment
  background : Option BackgroundSelection
  equipment : Option EquipmentSelection
  wizardSpells : Option WizardSpellSelection
  presentation : Option HeroPresentation
  reviewed : Bool
  committedCharacterId : Option String
  deriving DecidableEq

/-- A check of the hero rules. -/
def checked {α : Type} (x : HeroResult α) : CreationResult α := x.mapError .hero

/-- `Option::expect`. -/
def expected {α : Type} (message : String) (x : Option α) : CreationResult α := okOr x (.panic message)

/-- A check of what is there. -/
def checkSome {α : Type} (check : α → HeroResult Unit) : Option α → HeroResult Unit
  | some a => check a
  | none => .ok ()

def validateStepOption {α : Type} (field : String) (value : Option α) (shouldBePresent : Bool) : HeroResult Unit :=
  rejectIf (value.isSome ≠ shouldBePresent) (.invalidField field
    (if shouldBePresent then "required prerequisite is missing at this draft step"
      else "a future-step value was supplied early"))

/-- A wizard has spells, and a fighter has none. -/
def validateSpells (missing forbidden : String) (heroClass : ClassSelection)
    (wizardSpells : Option WizardSpellSelection) (intelligenceModifier : Int8) : HeroResult Unit :=
  match heroClass, wizardSpells with
  | .wizard, some spells => spells.validateCreation intelligenceModifier
  | .wizard, none => .error (.invalidField "wizard_spells" missing)
  | .fighter _, none => .ok ()
  | .fighter _, some _ => .error (.invalidField "wizard_spells" forbidden)

namespace HeroCreationDraft

def toChoices (d : HeroCreationDraft) : HeroResult HeroChoices := do
  return {
    pins := ← okOr d.pins (.invalidField "pins" "campaign/theme pins are incomplete")
    concept := ← okOr d.concept (.invalidField "concept" "concept is incomplete")
    ancestry := ← okOr d.ancestry (.invalidField "ancestry" "ancestry is incomplete")
    heroClass := ← okOr d.heroClass (.invalidField "class" "class is incomplete")
    abilityAssignment := ← okOr d.abilityAssignment
      (.invalidField "ability_assignment" "ability assignment is incomplete")
    background := ← okOr d.background (.invalidField "background" "background is incomplete")
    equipment := ← okOr d.equipment (.invalidField "equipment" "equipment is incomplete")
    wizardSpells := d.wizardSpells
    presentation := ← okOr d.presentation (.invalidField "presentation" "presentation is incomplete") }

/-- Whatever the steps so far ask for is there, and nothing else. -/
def validateOptions (d : HeroCreationDraft) : HeroResult Unit := do
  let ordinal := d.step.ordinal
  validateStepOption "pins" d.pins (1 ≤ ordinal)
  validateStepOption "concept" d.concept (2 ≤ ordinal)
  validateStepOption "ancestry" d.ancestry (3 ≤ ordinal)
  validateStepOption "class" d.heroClass (3 ≤ ordinal)
  validateStepOption "ability_assignment" d.abilityAssignment (4 ≤ ordinal)
  validateStepOption "background" d.background (5 ≤ ordinal)
  validateStepOption "equipment" d.equipment (6 ≤ ordinal)
  validateStepOption "presentation" d.presentation (7 ≤ ordinal)
  rejectIf (d.reviewed ≠ decide (8 ≤ ordinal))
    (.invalidField "reviewed" "review marker must match the authoritative draft step")
  validateStepOption "committed_character_id" d.committedCharacterId (ordinal = 9)

/-- The spells of a draft that has its equipment. -/
def validateDraftSpells (d : HeroCreationDraft) : CreationResult Unit :=
  if 6 ≤ d.step.ordinal then do
    let heroClass ← expected "validated class prerequisite" d.heroClass
    let assignment ← expected "validated ability prerequisite" d.abilityAssignment
    let scores ← checked assignment.humanScores
    checked (validateSpells "wizard draft requires supported spells" "fighter draft cannot include spells" heroClass
      d.wizardSpells (scores.get .intelligence).modifier)
  else .ok ()

/-- The whole of the choices, once they are all there. -/
def validateChoices (d : HeroCreationDraft) : HeroResult Unit :=
  if 7 ≤ d.step.ordinal then do
    let choices ← d.toChoices
    choices.validate
  else .ok ()

def validate (d : HeroCreationDraft) : CreationResult Unit := do
  checked (requireSchema d.schemaVersion heroDraftSchemaVersion)
  checked (validateId "draft_id" d.draftId)
  checked (validateId "campaign_id" d.campaignId)
  checked (validateId "owner_id" d.ownerId)
  checked (rejectIf (d.expiresAtEpochSeconds = 0) (.invalidField "expires_at" "draft expiry must be non-zero"))
  checked d.validateOptions
  checked (checkSome HeroPins.validate d.pins)
  checked (rejectIf (∃ ancestry ∈ d.ancestry, ancestry ≠ .human) (.invalidField "ancestry" "only human is offered"))
  checked (checkSome StandardArrayAssignment.validate d.abilityAssignment)
  checked (checkSome (fun c => checkSome (·.validateFor c.heroClass) d.background) d.heroClass)
  checked (checkSome (fun c => checkSome (·.validateFor c) d.equipment) d.heroClass)
  checked (rejectIf (d.step.ordinal < 6 ∧ d.wizardSpells.isSome = true)
    (.invalidField "wizard_spells" "spells cannot be selected before the equipment-and-spells step"))
  d.validateDraftSpells
  checked (checkSome HeroPresentation.validate d.presentation)
  checked (checkSome (validateId "committed_character_id") d.committedCharacterId)
  checked d.validateChoices

def new (draftId campaignId ownerId : String) (expiresAtEpochSeconds : Nat) : CreationResult HeroCreationDraft := do
  let draft : HeroCreationDraft :=
    { schemaVersion := heroDraftSchemaVersion
      draftId, campaignId, ownerId
      revision := 0
      expiresAtEpochSeconds
      step := .campaignTheme
      pins := none
      concept := none
      ancestry := none
      heroClass := none
      abilityAssignment := none
      background := none
      equipment := none
      wizardSpells := none
      presentation := none
      reviewed := false
      committedCharacterId := none }
  draft.validate
  return draft

def isExpired (d : HeroCreationDraft) (nowEpochSeconds : Nat) : Bool :=
  decide (d.expiresAtEpochSeconds < nowEpochSeconds)

/-- The draft with the intent's choice filled in, and the hero if that was the last. -/
def advanced (d : HeroCreationDraft) : HeroCreationIntent → CreationResult (HeroCreationDraft × Option HeroCharacter)
  | .selectCampaignTheme pins => return ({ d with pins := some pins, step := .concept }, none)
  | .selectConcept concept => return ({ d with concept := some concept, step := .rules }, none)
  | .selectRules ancestry heroClass => do
    checked (rejectIf (ancestry ≠ .human) (.invalidField "ancestry" "only human is offered"))
    return ({ d with ancestry := some ancestry, heroClass := some heroClass, step := .abilityScores }, none)
  | .assignAbilities assignment => do
    checked assignment.validate
    return ({ d with abilityAssignment := some assignment, step := .background }, none)
  | .selectBackground selection => do
    let heroClass ← expected "step validation requires class" d.heroClass
    checked (selection.validateFor heroClass.heroClass)
    return ({ d with background := some selection, step := .equipmentAndSpells }, none)
  | .selectEquipmentAndSpells equipment wizardSpells => do
    let heroClass ← expected "step validation requires class" d.heroClass
    checked (equipment.validateFor heroClass)
    let assignment ← expected "step validation requires abilities" d.abilityAssignment
    let scores ← checked assignment.humanScores
    checked (validateSpells "wizard spells are required" "fighter cannot select wizard spells" heroClass wizardSpells
      (scores.get .intelligence).modifier)
    return ({ d with equipment := some equipment, wizardSpells, step := .presentation }, none)
  | .setPresentation presentation => do
    checked presentation.validate
    return ({ d with presentation := some presentation, step := .review }, none)
  | .review => do
    let choices ← checked d.toChoices
    checked choices.validate
    return ({ d with reviewed := true, step := .commit }, none)
  | .commit characterId => do
    let choices ← checked d.toChoices
    let created ← checked (HeroCharacter.create characterId d.campaignId d.ownerId choices)
    return ({ d with committedCharacterId := some characterId, step := .committed }, some created)

/-- `checked_add` of one to the revision. -/
def nextRevision (d : HeroCreationDraft) : HeroResult Nat := do
  rejectIf (maxRevision ≤ d.revision) (.invalidField "revision" "draft revision overflowed")
  return d.revision + 1

/-- Carry a command out on a candidate, which replaces the draft once everything has been checked. -/
def applyTrusted (command : HeroCreationCommand) (context : TrustedMutationContext) :
    Attempt HeroCreationDraft CreationStop HeroCreationOutcome := do
  let self ← Attempt.reading id
  Attempt.lift self.validate
  Attempt.lift (checked command.validate)
  Attempt.lift (checked context.validate)
  Attempt.lift (checked (rejectIf (command.draftId ≠ self.draftId)
    (.invalidField "draft_id" "command targets a different draft")))
  Attempt.lift (checked (rejectIf (context.actorId ≠ self.ownerId)
    (.invalidField "actor_id" "only the draft owner can advance creation")))
  Attempt.lift (checked (rejectIf (self.isExpired context.occurredAtEpochSeconds = true)
    (.invalidField "expires_at" "creation draft has expired")))
  Attempt.lift (checked (checkRevision self.revision command.expectedRevision))
  Attempt.lift (rejectIf (self.step ≠ command.intent.requiredStep)
    (.draftStepMismatch command.intent.requiredStep self.step))
  let (candidate, character) ← Attempt.lift (self.advanced command.intent)
  let revision ← Attempt.lift (checked candidate.nextRevision)
  let candidate := { candidate with revision }
  Attempt.lift candidate.validate
  let transitionAudit : HeroCreationTransitionAudit :=
    { schemaVersion := heroAuditSchemaVersion
      auditId := context.auditId
      actorId := context.actorId
      draftId := self.draftId
      idempotencyKey := command.idempotencyKey
      revisionBefore := self.revision
      revisionAfter := candidate.revision
      stepBefore := self.step
      stepAfter := candidate.step
      action := command.intent.action
      occurredAtEpochSeconds := context.occurredAtEpochSeconds }
  Attempt.lift (checked transitionAudit.validate)
  let createdAudit : Option CharacterCreatedAudit := character.map fun created =>
    { schemaVersion := heroAuditSchemaVersion
      auditId := context.auditId
      actorId := context.actorId
      draftId := self.draftId
      characterId := created.characterId
      campaignId := created.campaignId
      draftRevision := candidate.revision
      choices := created.choices
      derivedSheet := created.sheet
      occurredAtEpochSeconds := context.occurredAtEpochSeconds }
  Attempt.lift (checked (checkSome CharacterCreatedAudit.validate createdAudit))
  Attempt.writing fun _ => candidate
  return { transitionAudit, character, createdAudit }

end HeroCreationDraft

/-! ## What the checks ask for -/

variable {α : Type}

variable {a : α} {x : Option α}

theorem checked_eq_ok {x : HeroResult α} : checked x = .ok a ↔ x = .ok a := mapError_eq_ok

theorem expected_eq_ok {message : String} :
    expected message x = .ok a ↔ x = some a := okOr_eq_ok

theorem checkSome_eq_ok {check : α → HeroResult Unit} :
    checkSome check x = .ok () ↔ ∀ a ∈ x, check a = .ok () := by
  cases x with
  | none => exact iff_of_true rfl fun a ha => nomatch ha
  | some a => exact ⟨fun h b hb => Option.some.inj hb ▸ h, fun h => h a rfl⟩

theorem validateStepOption_eq_ok {field : String} {value : Option α} {shouldBePresent : Bool} :
    validateStepOption field value shouldBePresent = .ok () ↔ value.isSome = shouldBePresent := by
  rw [validateStepOption, rejectIf_eq_ok, not_not]

/-- A wizard has the spells for the level and the intelligence, a fighter has none. -/
def SpellsFit (heroClass : ClassSelection) (wizardSpells : Option WizardSpellSelection) (intelligenceModifier : Int8) :
    Prop :=
  match heroClass, wizardSpells with
  | .wizard, some spells => spells.validateCreation intelligenceModifier = .ok ()
  | .fighter _, none => True
  | _, _ => False

theorem validateSpells_eq_ok {missing forbidden : String} {heroClass : ClassSelection}
    {wizardSpells : Option WizardSpellSelection} {intelligenceModifier : Int8} :
    validateSpells missing forbidden heroClass wizardSpells intelligenceModifier = .ok () ↔
      SpellsFit heroClass wizardSpells intelligenceModifier := by
  rcases heroClass with style | _ <;> rcases wizardSpells with _ | spells
  · exact iff_of_true rfl trivial
  · exact iff_of_false (fun h => nomatch h) id
  · exact iff_of_false (fun h => nomatch h) id
  · exact Iff.rfl

/-- Choices whose parts pass pass as a whole. -/
theorem HeroChoices.validate_of_parts {c : HeroChoices} {scores : AbilityScores} (hpins : c.pins.validate = .ok ())
    (hassignment : c.abilityAssignment.validate = .ok ()) (hscores : c.abilityAssignment.humanScores = .ok scores)
    (hbackground : c.background.validateFor c.heroClass.heroClass = .ok ())
    (hequipment : c.equipment.validateFor c.heroClass = .ok ()) (hpresentation : c.presentation.validate = .ok ())
    (hspells : SpellsFit c.heroClass c.wizardSpells (scores.get .intelligence).modifier) : c.validate = .ok () := by
  have hhuman : ¬ c.ancestry ≠ .human := by
    cases c.ancestry
    exact fun h => h rfl
  unfold HeroChoices.validate
  rw [hpins, ok_bind, rejectIf_of_not hhuman, ok_bind, hassignment, ok_bind, hbackground, ok_bind, hequipment, ok_bind,
    hpresentation, ok_bind, hscores, ok_bind]
  generalize c.heroClass = heroClass at hspells ⊢
  generalize c.wizardSpells = wizardSpells at hspells ⊢
  rcases heroClass with style | _ <;> rcases wizardSpells with _ | spells
  · rfl
  · exact hspells.elim
  · exact hspells.elim
  · exact hspells

/-- What a new hero is made of. -/
theorem HeroCharacter.create_eq_ok {characterId campaignId ownerId : String} {choices : HeroChoices}
    {hero : HeroCharacter} (h : create characterId campaignId ownerId choices = .ok hero) :
    hero.choices = choices ∧ hero.characterId = characterId ∧ hero.campaignId = campaignId ∧
      hero.ownerId = ownerId ∧ deriveSheet choices .one [] = .ok hero.sheet ∧ hero.validate = .ok () := by
  unfold create at h
  obtain ⟨_, -, h⟩ := bind_eq_ok.mp h
  obtain ⟨_, -, h⟩ := bind_eq_ok.mp h
  obtain ⟨_, -, h⟩ := bind_eq_ok.mp h
  obtain ⟨_, -, h⟩ := bind_eq_ok.mp h
  obtain ⟨sheet, hsheet, h⟩ := bind_eq_ok.mp h
  obtain ⟨_, hvalid, h⟩ := bind_eq_ok.mp h
  cases h
  exact ⟨rfl, rfl, rfl, rfl, hsheet, hvalid⟩

namespace HeroCreationDraft

variable {d d' : HeroCreationDraft}

theorem toChoices_eq_ok {c : HeroChoices} : d.toChoices = .ok c ↔
    d.pins = some c.pins ∧ d.concept = some c.concept ∧ d.ancestry = some c.ancestry ∧
      d.heroClass = some c.heroClass ∧ d.abilityAssignment = some c.abilityAssignment ∧
      d.background = some c.background ∧ d.equipment = some c.equipment ∧ d.wizardSpells = c.wizardSpells ∧
      d.presentation = some c.presentation := by
  simp only [toChoices, bind_eq_ok, okOr_eq_ok, pure_eq, Except.ok.injEq]
  constructor
  · rintro ⟨_, h₁, _, h₂, _, h₃, _, h₄, _, h₅, _, h₆, _, h₇, _, h₈, rfl⟩
    exact ⟨h₁, h₂, h₃, h₄, h₅, h₆, h₇, rfl, h₈⟩
  · rintro ⟨h₁, h₂, h₃, h₄, h₅, h₆, h₇, h₈, h₉⟩
    refine ⟨_, h₁, _, h₂, _, h₃, _, h₄, _, h₅, _, h₆, _, h₇, _, h₉, ?_⟩
    rw [h₈]

/-- What a draft keeps all along: whose it is, for which campaign and until when. -/
def identity (d : HeroCreationDraft) : Nat × String × String × String × Nat :=
  (d.schemaVersion, d.draftId, d.campaignId, d.ownerId, d.expiresAtEpochSeconds)

structure Identified (d : HeroCreationDraft) : Prop where
  schema : d.schemaVersion = heroDraftSchemaVersion
  draftId : isValidOpaqueId d.draftId = true
  campaignId : isValidOpaqueId d.campaignId = true
  ownerId : isValidOpaqueId d.ownerId = true
  expires : d.expiresAtEpochSeconds ≠ 0

/-- What the steps so far ask for is there, and nothing else. -/
structure Filled (d : HeroCreationDraft) : Prop where
  pins : d.pins.isSome = decide (1 ≤ d.step.ordinal)
  concept : d.concept.isSome = decide (2 ≤ d.step.ordinal)
  ancestry : d.ancestry.isSome = decide (3 ≤ d.step.ordinal)
  heroClass : d.heroClass.isSome = decide (3 ≤ d.step.ordinal)
  assignment : d.abilityAssignment.isSome = decide (4 ≤ d.step.ordinal)
  background : d.background.isSome = decide (5 ≤ d.step.ordinal)
  equipment : d.equipment.isSome = decide (6 ≤ d.step.ordinal)
  presentation : d.presentation.isSome = decide (7 ≤ d.step.ordinal)
  reviewed : d.reviewed = decide (8 ≤ d.step.ordinal)
  committed : d.committedCharacterId.isSome = decide (d.step.ordinal = 9)

/-- Each value is valid beside those it depends on. -/
structure Sound (d : HeroCreationDraft) : Prop where
  pins : ∀ pins ∈ d.pins, pins.validate = .ok ()
  assignment : ∀ assignment ∈ d.abilityAssignment, assignment.validate = .ok ()
  background : ∀ c ∈ d.heroClass, ∀ background ∈ d.background, background.validateFor c.heroClass = .ok ()
  equipment : ∀ c ∈ d.heroClass, ∀ equipment ∈ d.equipment, equipment.validateFor c = .ok ()
  early : d.step.ordinal < 6 → d.wizardSpells = none
  spells : 6 ≤ d.step.ordinal → ∀ c ∈ d.heroClass, ∀ assignment ∈ d.abilityAssignment, ∀ scores,
    assignment.humanScores = .ok scores → SpellsFit c d.wizardSpells (scores.get .intelligence).modifier
  presentation : ∀ presentation ∈ d.presentation, presentation.validate = .ok ()
  committed : ∀ characterId ∈ d.committedCharacterId, isValidOpaqueId characterId = true

theorem validateOptions_eq_ok : d.validateOptions = .ok () ↔ d.Filled := by
  simp only [validateOptions, seq_eq_ok, validateStepOption_eq_ok, rejectIf_eq_ok, not_not]
  exact ⟨fun ⟨h₁, h₂, h₃, h₄, h₅, h₆, h₇, h₈, h₉, h₁₀⟩ => ⟨h₁, h₂, h₃, h₄, h₅, h₆, h₇, h₈, h₉, h₁₀⟩,
    fun h => ⟨h.pins, h.concept, h.ancestry, h.heroClass, h.assignment, h.background, h.equipment, h.presentation,
      h.reviewed, h.committed⟩⟩

theorem Identified.of_identity (hi : d.Identified) (h : d'.identity = d.identity) : d'.Identified := by
  simp only [identity, Prod.mk.injEq] at h
  obtain ⟨h₁, h₂, h₃, h₄, h₅⟩ := h
  exact ⟨h₁ ▸ hi.schema, h₂ ▸ hi.draftId, h₃ ▸ hi.campaignId, h₄ ▸ hi.ownerId, h₅ ▸ hi.expires⟩

variable {α : Type} {intent : HeroCreationIntent} {candidate : HeroCreationDraft} {character : Option HeroCharacter}
  {c : Prop}

variable {x : Option α} {β : Type}

/-- What a step asked for is there later on. -/
theorem exists_of_isSome [Decidable c] (h : x.isSome = decide c) (hc : c) :
    ∃ a, x = some a := by
  rw [decide_eq_true hc] at h
  exact Option.isSome_iff_exists.mp h

theorem eq_none_of_isSome [Decidable c] (h : x.isSome = decide c) (hc : ¬ c) :
    x = none := by
  rw [decide_eq_false hc, Option.isSome_eq_false_iff, Option.isNone_iff_eq_none] at h
  exact h

/-- **A draft with its presentation has all choices, and they are valid**: their parts were checked with the steps. -/
theorem Sound.choices (hs : d.Sound) (hf : d.Filled) (hlate : 7 ≤ d.step.ordinal) :
    ∃ choices, d.toChoices = .ok choices ∧ choices.validate = .ok () := by
  obtain ⟨pins, hpins⟩ := exists_of_isSome hf.pins (by omega)
  obtain ⟨concept, hconcept⟩ := exists_of_isSome hf.concept (by omega)
  obtain ⟨ancestry, hancestry⟩ := exists_of_isSome hf.ancestry (by omega)
  obtain ⟨heroClass, hclass⟩ := exists_of_isSome hf.heroClass (by omega)
  obtain ⟨assignment, hassignment⟩ := exists_of_isSome hf.assignment (by omega)
  obtain ⟨background, hbackground⟩ := exists_of_isSome hf.background (by omega)
  obtain ⟨equipment, hequipment⟩ := exists_of_isSome hf.equipment (by omega)
  obtain ⟨presentation, hpresentation⟩ := exists_of_isSome hf.presentation (by omega)
  obtain ⟨scores, hscores⟩ := StandardArrayAssignment.humanScores_ok (hs.assignment _ hassignment)
  refine ⟨⟨pins, concept, ancestry, heroClass, assignment, background, equipment, d.wizardSpells, presentation⟩,
    toChoices_eq_ok.mpr ⟨hpins, hconcept, hancestry, hclass, hassignment, hbackground, hequipment, rfl, hpresentation⟩,
    ?_⟩
  exact HeroChoices.validate_of_parts (hs.pins _ hpins) (hs.assignment _ hassignment) hscores
    (hs.background _ hclass _ hbackground) (hs.equipment _ hclass _ hequipment) (hs.presentation _ hpresentation)
    (hs.spells (by omega) _ hclass _ hassignment _ hscores)

theorem validateDraftSpells_eq_ok (hf : d.Filled)
    (hassignment : ∀ assignment ∈ d.abilityAssignment, assignment.validate = .ok ()) :
    d.validateDraftSpells = .ok () ↔ (6 ≤ d.step.ordinal → ∀ c ∈ d.heroClass, ∀ assignment ∈ d.abilityAssignment,
      ∀ scores, assignment.humanScores = .ok scores →
        SpellsFit c d.wizardSpells (scores.get .intelligence).modifier) := by
  unfold validateDraftSpells
  by_cases hlate : 6 ≤ d.step.ordinal
  · obtain ⟨heroClass, hclass⟩ := exists_of_isSome hf.heroClass (by omega)
    obtain ⟨assignment, hsome⟩ := exists_of_isSome hf.assignment (by omega)
    obtain ⟨scores, hscores⟩ := StandardArrayAssignment.humanScores_ok (hassignment _ hsome)
    have hchecked : checked assignment.humanScores = .ok scores := checked_eq_ok.mpr hscores
    rw [if_pos hlate, hclass, hsome]
    show (checked assignment.humanScores >>= fun scores => checked (validateSpells _ _ heroClass d.wizardSpells
      (scores.get .intelligence).modifier)) = _ ↔ _
    rw [hchecked, ok_bind, checked_eq_ok, validateSpells_eq_ok]
    constructor
    · intro hfit _ c hc a ha scores' hscores'
      obtain rfl := Option.some.inj hc
      obtain rfl := Option.some.inj ha
      obtain rfl := Except.ok.inj (hscores.symm.trans hscores')
      exact hfit
    · exact fun h => h hlate heroClass rfl assignment rfl scores hscores
  · rw [if_neg hlate]
    exact iff_of_true rfl fun h => absurd h hlate

theorem validateChoices_ok (hs : d.Sound) (hf : d.Filled) : d.validateChoices = .ok () := by
  unfold validateChoices
  by_cases hlate : 7 ≤ d.step.ordinal
  · obtain ⟨choices, hchoices, hvalid⟩ := hs.choices hf hlate
    rw [if_pos hlate, hchoices]
    exact hvalid
  · exact if_neg hlate

/-- **The check of a draft**: it is filled as far as its step, with sound values. -/
theorem validate_eq_ok : d.validate = .ok () ↔ d.Identified ∧ d.Filled ∧ d.Sound := by
  have hhuman : ¬ ∃ ancestry ∈ d.ancestry, ancestry ≠ .human := by
    rintro ⟨⟨⟩, -, hne⟩
    exact hne rfl
  simp only [validate, seq_eq_ok, checked_eq_ok, requireSchema_eq_ok, validateId_eq_ok, rejectIf_eq_ok,
    validateOptions_eq_ok, checkSome_eq_ok, hhuman, not_false_eq_true, true_and]
  constructor
  · rintro ⟨h₁, h₂, h₃, h₄, h₅, hf, h₆, h₇, h₈, h₉, hearly, hspells, h₁₀, h₁₁, -⟩
    refine ⟨⟨h₁, h₂, h₃, h₄, h₅⟩, hf, h₆, h₇, h₈, h₉, fun hlt => ?_, (validateDraftSpells_eq_ok hf h₇).mp hspells, h₁₀,
      h₁₁⟩
    exact Option.not_isSome_iff_eq_none.mp fun hsome => hearly ⟨hlt, hsome⟩
  · rintro ⟨hi, hf, hs⟩
    refine ⟨hi.schema, hi.draftId, hi.campaignId, hi.ownerId, hi.expires, hf, hs.pins, hs.assignment, hs.background,
      hs.equipment, ?_, (validateDraftSpells_eq_ok hf hs.assignment).mpr hs.spells, hs.presentation, hs.committed,
      validateChoices_ok hs hf⟩
    rintro ⟨hlt, hsome⟩
    rw [hs.early hlt] at hsome
    cases hsome

/-! ## One step -/

/-- The candidate of a step goes on by one step, with the identity and the revision of the draft. -/
structure Follows (d candidate : HeroCreationDraft) : Prop where
  step : candidate.step.ordinal = d.step.ordinal + 1
  revision : candidate.revision = d.revision
  identity : candidate.identity = d.identity
  filled : d.Filled → candidate.Filled

/-- **An intent at its step fills in what the next step asks for.** -/
theorem advanced_follows (hstep : d.step = intent.requiredStep) (h : d.advanced intent = .ok (candidate, character)) :
    d.Follows candidate := by
  obtain ⟨_, _, _, _, _, _, step, _, _, _, _, _, _, _, _, _, _, _⟩ := d
  cases intent with
  | selectCampaignTheme pins =>
    obtain rfl : step = .campaignTheme := hstep
    cases h
    exact ⟨rfl, rfl, rfl, fun hf =>
      ⟨rfl, hf.concept, hf.ancestry, hf.heroClass, hf.assignment, hf.background, hf.equipment, hf.presentation,
        hf.reviewed, hf.committed⟩⟩
  | selectConcept concept =>
    obtain rfl : step = .concept := hstep
    cases h
    exact ⟨rfl, rfl, rfl, fun hf =>
      ⟨hf.pins, rfl, hf.ancestry, hf.heroClass, hf.assignment, hf.background, hf.equipment, hf.presentation,
        hf.reviewed, hf.committed⟩⟩
  | selectRules ancestry heroClass =>
    obtain rfl : step = .rules := hstep
    obtain ⟨_, -, h⟩ := bind_eq_ok.mp h
    cases h
    exact ⟨rfl, rfl, rfl, fun hf =>
      ⟨hf.pins, hf.concept, rfl, rfl, hf.assignment, hf.background, hf.equipment, hf.presentation, hf.reviewed,
        hf.committed⟩⟩
  | assignAbilities assignment =>
    obtain rfl : step = .abilityScores := hstep
    obtain ⟨_, -, h⟩ := bind_eq_ok.mp h
    cases h
    exact ⟨rfl, rfl, rfl, fun hf =>
      ⟨hf.pins, hf.concept, hf.ancestry, hf.heroClass, rfl, hf.background, hf.equipment, hf.presentation, hf.reviewed,
        hf.committed⟩⟩
  | selectBackground selection =>
    obtain rfl : step = .background := hstep
    obtain ⟨_, -, h⟩ := bind_eq_ok.mp h
    obtain ⟨_, -, h⟩ := bind_eq_ok.mp h
    cases h
    exact ⟨rfl, rfl, rfl, fun hf =>
      ⟨hf.pins, hf.concept, hf.ancestry, hf.heroClass, hf.assignment, rfl, hf.equipment, hf.presentation, hf.reviewed,
        hf.committed⟩⟩
  | selectEquipmentAndSpells equipment wizardSpells =>
    obtain rfl : step = .equipmentAndSpells := hstep
    obtain ⟨_, -, h⟩ := bind_eq_ok.mp h
    obtain ⟨_, -, h⟩ := bind_eq_ok.mp h
    obtain ⟨_, -, h⟩ := bind_eq_ok.mp h
    obtain ⟨_, -, h⟩ := bind_eq_ok.mp h
    obtain ⟨_, -, h⟩ := bind_eq_ok.mp h
    cases h
    exact ⟨rfl, rfl, rfl, fun hf =>
      ⟨hf.pins, hf.concept, hf.ancestry, hf.heroClass, hf.assignment, hf.background, rfl, hf.presentation, hf.reviewed,
        hf.committed⟩⟩
  | setPresentation presentation =>
    obtain rfl : step = .presentation := hstep
    obtain ⟨_, -, h⟩ := bind_eq_ok.mp h
    cases h
    exact ⟨rfl, rfl, rfl, fun hf =>
      ⟨hf.pins, hf.concept, hf.ancestry, hf.heroClass, hf.assignment, hf.background, hf.equipment, rfl, hf.reviewed,
        hf.committed⟩⟩
  | review =>
    obtain rfl : step = .review := hstep
    obtain ⟨_, -, h⟩ := bind_eq_ok.mp h
    obtain ⟨_, -, h⟩ := bind_eq_ok.mp h
    cases h
    exact ⟨rfl, rfl, rfl, fun hf =>
      ⟨hf.pins, hf.concept, hf.ancestry, hf.heroClass, hf.assignment, hf.background, hf.equipment, hf.presentation,
        rfl, hf.committed⟩⟩
  | commit characterId =>
    obtain rfl : step = .commit := hstep
    obtain ⟨_, -, h⟩ := bind_eq_ok.mp h
    obtain ⟨_, -, h⟩ := bind_eq_ok.mp h
    cases h
    exact ⟨rfl, rfl, rfl, fun hf =>
      ⟨hf.pins, hf.concept, hf.ancestry, hf.heroClass, hf.assignment, hf.background, hf.equipment, hf.presentation,
        hf.reviewed, rfl⟩⟩

/-- **And what it fills in is sound**, so that the check of the candidate never fails. -/
theorem advanced_sound
    (hf : d.Filled) (hs : d.Sound) (hintent : intent.validate = .ok ()) (hstep : d.step = intent.requiredStep)
    (h : d.advanced intent = .ok (candidate, character)) : candidate.Sound := by
  obtain ⟨_, _, _, _, _, _, step, _, _, _, heroClass, assignment, _, _, _, _, _, _⟩ := d
  cases intent with
  | selectCampaignTheme pins =>
    obtain rfl : step = .campaignTheme := hstep
    cases h
    refine ⟨fun p hp => ?_, hs.assignment, hs.background, hs.equipment, fun _ => hs.early (show 0 < 6 by decide),
      fun hlate => absurd hlate (show ¬ 6 ≤ 1 by decide), hs.presentation, hs.committed⟩
    obtain rfl := Option.some.inj hp
    exact hintent
  | selectConcept concept =>
    obtain rfl : step = .concept := hstep
    cases h
    exact ⟨hs.pins, hs.assignment, hs.background, hs.equipment, fun _ => hs.early (show 1 < 6 by decide),
      fun hlate => absurd hlate (show ¬ 6 ≤ 2 by decide), hs.presentation, hs.committed⟩
  | selectRules ancestry heroClass =>
    obtain rfl : step = .rules := hstep
    obtain ⟨_, -, h⟩ := bind_eq_ok.mp h
    cases h
    -- what depends on the class is not there yet
    refine ⟨hs.pins, hs.assignment, fun _ _ background hb => ?_, fun _ _ equipment he => ?_,
      fun _ => hs.early (show 2 < 6 by decide), fun hlate => absurd hlate (show ¬ 6 ≤ 3 by decide), hs.presentation,
      hs.committed⟩
    · rw [eq_none_of_isSome hf.background (show ¬ 5 ≤ 2 by decide)] at hb
      cases hb
    · rw [eq_none_of_isSome hf.equipment (show ¬ 6 ≤ 2 by decide)] at he
      cases he
  | assignAbilities assignment =>
    obtain rfl : step = .abilityScores := hstep
    obtain ⟨_, -, h⟩ := bind_eq_ok.mp h
    cases h
    refine ⟨hs.pins, fun a ha => ?_, hs.background, hs.equipment, fun _ => hs.early (show 3 < 6 by decide),
      fun hlate => absurd hlate (show ¬ 6 ≤ 4 by decide), hs.presentation, hs.committed⟩
    obtain rfl := Option.some.inj ha
    exact hintent
  | selectBackground selection =>
    obtain rfl : step = .background := hstep
    obtain ⟨c, hclass, h⟩ := bind_eq_ok.mp h
    obtain ⟨_, hselection, h⟩ := bind_eq_ok.mp h
    cases h
    obtain rfl := expected_eq_ok.mp hclass
    refine ⟨hs.pins, hs.assignment, fun c' hc b hb => ?_, hs.equipment, fun _ => hs.early (show 4 < 6 by decide),
      fun hlate => absurd hlate (show ¬ 6 ≤ 5 by decide), hs.presentation, hs.committed⟩
    obtain rfl := Option.some.inj hc
    obtain rfl := Option.some.inj hb
    exact checked_eq_ok.mp hselection
  | selectEquipmentAndSpells equipment wizardSpells =>
    obtain rfl : step = .equipmentAndSpells := hstep
    obtain ⟨c, hclass, h⟩ := bind_eq_ok.mp h
    obtain ⟨_, hequipment, h⟩ := bind_eq_ok.mp h
    obtain ⟨a, hassignment, h⟩ := bind_eq_ok.mp h
    obtain ⟨scores, hscores, h⟩ := bind_eq_ok.mp h
    obtain ⟨_, hspells, h⟩ := bind_eq_ok.mp h
    cases h
    obtain rfl := expected_eq_ok.mp hclass
    obtain rfl := expected_eq_ok.mp hassignment
    refine ⟨hs.pins, hs.assignment, hs.background, fun c' hc e he => ?_, fun hlt => absurd hlt (show ¬ 6 < 6 by decide),
      fun _ c' hc a' ha scores' hscores' => ?_, hs.presentation, hs.committed⟩
    · obtain rfl := Option.some.inj hc
      obtain rfl := Option.some.inj he
      exact checked_eq_ok.mp hequipment
    · obtain rfl := Option.some.inj hc
      obtain rfl := Option.some.inj ha
      obtain rfl := Except.ok.inj ((checked_eq_ok.mp hscores).symm.trans hscores')
      exact validateSpells_eq_ok.mp (checked_eq_ok.mp hspells)
  | setPresentation presentation =>
    obtain rfl : step = .presentation := hstep
    obtain ⟨_, -, h⟩ := bind_eq_ok.mp h
    cases h
    refine ⟨hs.pins, hs.assignment, hs.background, hs.equipment, fun hlt => absurd hlt (show ¬ 7 < 6 by decide),
      fun _ => hs.spells (show 6 ≤ 6 by decide), fun p hp => ?_, hs.committed⟩
    obtain rfl := Option.some.inj hp
    exact hintent
  | review =>
    obtain rfl : step = .review := hstep
    obtain ⟨_, -, h⟩ := bind_eq_ok.mp h
    obtain ⟨_, -, h⟩ := bind_eq_ok.mp h
    cases h
    exact ⟨hs.pins, hs.assignment, hs.background, hs.equipment, fun hlt => absurd hlt (show ¬ 8 < 6 by decide),
      fun _ => hs.spells (show 6 ≤ 7 by decide), hs.presentation, hs.committed⟩
  | commit characterId =>
    obtain rfl : step = .commit := hstep
    obtain ⟨_, -, h⟩ := bind_eq_ok.mp h
    obtain ⟨_, -, h⟩ := bind_eq_ok.mp h
    cases h
    refine ⟨hs.pins, hs.assignment, hs.background, hs.equipment, fun hlt => absurd hlt (show ¬ 9 < 6 by decide),
      fun _ => hs.spells (show 6 ≤ 8 by decide), hs.presentation, fun id hid => ?_⟩
    obtain rfl := Option.some.inj hid
    exact validateId_eq_ok.mp hintent

/-- Only the last step makes a hero. -/
theorem advanced_character {hero : HeroCharacter}
    (h : d.advanced intent = .ok (candidate, some hero)) : ∃ characterId choices, intent = .commit characterId ∧
      d.toChoices = .ok choices ∧ HeroCharacter.create characterId d.campaignId d.ownerId choices = .ok hero := by
  cases intent with
  | commit characterId =>
    obtain ⟨choices, hchoices, h⟩ := bind_eq_ok.mp h
    obtain ⟨created, hcreate, h⟩ := bind_eq_ok.mp h
    cases h
    exact ⟨characterId, choices, rfl, checked_eq_ok.mp hchoices, checked_eq_ok.mp hcreate⟩
  | selectCampaignTheme | selectConcept => cases h
  | selectRules | assignAbilities | setPresentation =>
    obtain ⟨_, -, h⟩ := bind_eq_ok.mp h
    cases h
  | selectBackground | review =>
    obtain ⟨_, -, h⟩ := bind_eq_ok.mp h
    obtain ⟨_, -, h⟩ := bind_eq_ok.mp h
    cases h
  | selectEquipmentAndSpells =>
    obtain ⟨_, -, h⟩ := bind_eq_ok.mp h
    obtain ⟨_, -, h⟩ := bind_eq_ok.mp h
    obtain ⟨_, -, h⟩ := bind_eq_ok.mp h
    obtain ⟨_, -, h⟩ := bind_eq_ok.mp h
    obtain ⟨_, -, h⟩ := bind_eq_ok.mp h
    cases h

/-! ## There is always a way on -/

theorem advanced_review (hf : d.Filled) (hs : d.Sound) (hlate : 7 ≤ d.step.ordinal) :
    ∃ candidate, d.advanced .review = .ok candidate := by
  obtain ⟨choices, hchoices, hvalid⟩ := hs.choices hf hlate
  refine ⟨({ d with reviewed := true, step := .commit }, none), ?_⟩
  refine bind_eq_ok.mpr ⟨choices, checked_eq_ok.mpr hchoices, ?_⟩
  exact seq_eq_ok.mpr ⟨checked_eq_ok.mpr hvalid, rfl⟩

/-- **The last step makes a hero of the choices.** -/
theorem advanced_commit (hi : d.Identified) (hf : d.Filled) (hs : d.Sound) (hlate : 7 ≤ d.step.ordinal)
    {characterId : String} (hcharacter : isValidOpaqueId characterId = true) :
    ∃ candidate hero, d.advanced (.commit characterId) = .ok (candidate, some hero) ∧ hero.validate = .ok () ∧
      d.toChoices = .ok hero.choices ∧ hero.characterId = characterId ∧ hero.campaignId = d.campaignId ∧
      hero.ownerId = d.ownerId := by
  obtain ⟨choices, hchoices, hvalid⟩ := hs.choices hf hlate
  obtain ⟨hero, hcreate, hhero, -⟩ := HeroCharacter.create_ok hcharacter hi.campaignId hi.ownerId hvalid
  obtain ⟨rfl, hid, hcampaign, howner, -⟩ := HeroCharacter.create_eq_ok hcreate
  refine ⟨{ d with committedCharacterId := some characterId, step := .committed }, hero, ?_, hhero, hchoices, hid,
    hcampaign, howner⟩
  refine bind_eq_ok.mpr ⟨_, checked_eq_ok.mpr hchoices, ?_⟩
  exact bind_eq_ok.mpr ⟨hero, checked_eq_ok.mpr hcreate, rfl⟩

theorem exists_background (heroClass : ClassSelection) :
    ∃ selection : BackgroundSelection, selection.validateFor heroClass.heroClass = .ok () := by
  cases heroClass with
  | fighter style =>
    refine ⟨⟨.soldier, [.acrobatics, .animalHandling]⟩, ?_⟩
    show BackgroundSelection.validateFor _ .fighter = _
    decide
  | wizard => exact ⟨⟨.soldier, [.arcana, .history]⟩, by decide⟩

theorem exists_equipment (heroClass : ClassSelection) :
    ∃ equipment : EquipmentSelection, equipment.validateFor heroClass = .ok () := by
  cases heroClass with
  | fighter style =>
    refine ⟨canalGuardian.equipment, ?_⟩
    cases style <;> decide
  | wizard => exact ⟨⟨EquipmentSelection.wizardLoadout, some .quarterstaff, none, false⟩, by decide⟩

/-- There are enough spells to prepare, whatever the intelligence. -/
theorem exists_spells (heroClass : ClassSelection) (intelligenceModifier : Int8) :
    ∃ wizardSpells, SpellsFit heroClass wizardSpells intelligenceModifier := by
  cases heroClass with
  | fighter style => exact ⟨none, trivial⟩
  | wizard =>
    refine ⟨some ⟨SpellId.cantrips, SpellId.levelOne,
      SpellId.levelOne.take (preparedSpellCapacity 1 intelligenceModifier)⟩, ?_⟩
    show WizardSpellSelection.validateCreation _ _ = _
    have hcapacity : 1 ≤ preparedSpellCapacity 1 intelligenceModifier ∧
        preparedSpellCapacity 1 intelligenceModifier ≤ 3 := by
      have hlength : SpellId.levelOne.length = 3 := rfl
      unfold preparedSpellCapacity
      omega
    unfold WizardSpellSelection.validateCreation
    generalize preparedSpellCapacity 1 intelligenceModifier = capacity at hcapacity ⊢
    obtain rfl | rfl | rfl : capacity = 1 ∨ capacity = 2 ∨ capacity = 3 := by omega
    all_goals decide

/-- **At every step but the last there is something to choose.** -/
theorem exists_intent (hi : d.Identified) (hf : d.Filled) (hs : d.Sound) (hopen : d.step ≠ .committed) :
    ∃ intent, HeroCreationIntent.validate intent = .ok () ∧ d.step = intent.requiredStep ∧
      ∃ candidate, d.advanced intent = .ok candidate := by
  cases hstep : d.step with
  | campaignTheme =>
    exact ⟨.selectCampaignTheme (.mvp .rainboundBorough), HeroPins.mvp_validates _, rfl, _, rfl⟩
  | concept => exact ⟨.selectConcept .canalGuardian, rfl, rfl, _, rfl⟩
  | rules => exact ⟨.selectRules .human .wizard, rfl, rfl, _, rfl⟩
  | abilityScores =>
    have hassignment : canalGuardian.abilityAssignment.validate = .ok () := by decide
    refine ⟨.assignAbilities canalGuardian.abilityAssignment, hassignment, rfl,
      ({ d with abilityAssignment := some canalGuardian.abilityAssignment, step := .background }, none), ?_⟩
    exact seq_eq_ok.mpr ⟨checked_eq_ok.mpr hassignment, rfl⟩
  | background =>
    obtain ⟨heroClass, hclass⟩ := exists_of_isSome hf.heroClass (by rw [hstep]; decide)
    obtain ⟨selection, hselection⟩ := exists_background heroClass
    refine ⟨.selectBackground selection, rfl, rfl,
      ({ d with background := some selection, step := .equipmentAndSpells }, none), ?_⟩
    refine bind_eq_ok.mpr ⟨heroClass, expected_eq_ok.mpr hclass, ?_⟩
    exact seq_eq_ok.mpr ⟨checked_eq_ok.mpr hselection, rfl⟩
  | equipmentAndSpells =>
    obtain ⟨heroClass, hclass⟩ := exists_of_isSome hf.heroClass (by rw [hstep]; decide)
    obtain ⟨assignment, hassignment⟩ := exists_of_isSome hf.assignment (by rw [hstep]; decide)
    obtain ⟨scores, hscores⟩ := StandardArrayAssignment.humanScores_ok (hs.assignment _ hassignment)
    obtain ⟨equipment, hequipment⟩ := exists_equipment heroClass
    obtain ⟨wizardSpells, hspells⟩ := exists_spells heroClass (scores.get .intelligence).modifier
    refine ⟨.selectEquipmentAndSpells equipment wizardSpells, rfl, rfl,
      ({ d with equipment := some equipment, wizardSpells, step := .presentation }, none), ?_⟩
    refine bind_eq_ok.mpr ⟨heroClass, expected_eq_ok.mpr hclass, ?_⟩
    refine seq_eq_ok.mpr ⟨checked_eq_ok.mpr hequipment, ?_⟩
    refine bind_eq_ok.mpr ⟨assignment, expected_eq_ok.mpr hassignment, ?_⟩
    refine bind_eq_ok.mpr ⟨scores, checked_eq_ok.mpr hscores, ?_⟩
    exact seq_eq_ok.mpr ⟨checked_eq_ok.mpr (validateSpells_eq_ok.mpr hspells), rfl⟩
  | presentation =>
    have hpresentation : canalGuardian.presentation.validate = .ok () := by decide
    refine ⟨.setPresentation canalGuardian.presentation, hpresentation, rfl,
      ({ d with presentation := some canalGuardian.presentation, step := .review }, none), ?_⟩
    exact seq_eq_ok.mpr ⟨checked_eq_ok.mpr hpresentation, rfl⟩
  | review => exact ⟨.review, rfl, rfl, advanced_review hf hs (by rw [hstep]; decide)⟩
  | commit =>
    have hcharacter : isValidOpaqueId "hero:mara" = true := by decide
    obtain ⟨candidate, hero, h, -⟩ := advanced_commit hi hf hs (by rw [hstep]; decide) hcharacter
    exact ⟨.commit "hero:mara", validateId_eq_ok.mpr hcharacter, rfl, _, h⟩
  | committed => exact absurd hstep hopen

/-! ## Calls -/

/-- The owner calls in time, on this draft at this revision. -/
structure Addresses (d : HeroCreationDraft) (command : HeroCreationCommand) (context : TrustedMutationContext) :
    Prop where
  commandValid : command.validate = .ok ()
  contextValid : context.validate = .ok ()
  draftId : command.draftId = d.draftId
  owner : context.actorId = d.ownerId
  inTime : context.occurredAtEpochSeconds ≤ d.expiresAtEpochSeconds
  revision : command.expectedRevision = d.revision

/-- What holds of a draft from the start on: its revision counts the steps that it has taken. -/
structure Going (d : HeroCreationDraft) : Prop where
  identified : d.Identified
  filled : d.Filled
  sound : d.Sound
  revision : d.revision = d.step.ordinal

theorem Going.validate (hd : d.Going) : d.validate = .ok () :=
  validate_eq_ok.mpr ⟨hd.identified, hd.filled, hd.sound⟩

theorem Going.revision_lt (hd : d.Going) : d.revision < maxRevision := by
  have hordinal : d.step.ordinal ≤ 9 := by cases d.step <;> decide
  have hrevision := hd.revision
  unfold maxRevision
  omega

/-- The draft that a step leaves. -/
def next (candidate : HeroCreationDraft) : HeroCreationDraft := { candidate with revision := candidate.revision + 1 }

theorem Going.next
    (hd : d.Going) (hintent : intent.validate = .ok ()) (hstep : d.step = intent.requiredStep)
    (h : d.advanced intent = .ok (candidate, character)) : candidate.next.Going := by
  have hfollows := advanced_follows hstep h
  have hs := advanced_sound hd.filled hd.sound hintent hstep h
  have hf := hfollows.filled hd.filled
  refine ⟨hd.identified.of_identity hfollows.identity, ?_, ?_, ?_⟩
  · exact ⟨hf.pins, hf.concept, hf.ancestry, hf.heroClass, hf.assignment, hf.background, hf.equipment, hf.presentation,
      hf.reviewed, hf.committed⟩
  · exact ⟨hs.pins, hs.assignment, hs.background, hs.equipment, hs.early, hs.spells, hs.presentation, hs.committed⟩
  · show candidate.revision + 1 = candidate.step.ordinal
    rw [hfollows.step, hfollows.revision, hd.revision]

theorem nextRevision_eq_ok {revision : Nat} :
    d.nextRevision = .ok revision ↔ d.revision < maxRevision ∧ revision = d.revision + 1 := by
  rw [nextRevision, seq_eq_ok, rejectIf_eq_ok, Nat.not_le, pure_eq, Except.ok.injEq, eq_comm (a := revision)]

/-- **A call fills in its intent, or leaves the draft as it was.** -/
theorem applyTrusted_ends (d : HeroCreationDraft) (command : HeroCreationCommand) (context : TrustedMutationContext) :
    Attempt.Ends (applyTrusted command context) d
      (fun outcome d' => command.intent.validate = .ok () ∧ d.step = command.intent.requiredStep ∧
        ∃ candidate, d.advanced command.intent = .ok (candidate, outcome.character) ∧ d' = candidate.next)
      fun d' => d' = d := by
  unfold applyTrusted
  rw [Attempt.ends_reading_bind]
  refine ends_lift_bind rfl fun _ _ => ?_
  refine ends_lift_bind rfl fun _ hcommand => ?_
  refine ends_lift_bind rfl fun _ _ => ?_
  refine ends_lift_bind rfl fun _ _ => ?_
  refine ends_lift_bind rfl fun _ _ => ?_
  refine ends_lift_bind rfl fun _ _ => ?_
  refine ends_lift_bind rfl fun _ _ => ?_
  refine ends_lift_bind rfl fun _ hstep => ?_
  refine ends_lift_bind rfl fun advanced hadvanced => ?_
  refine ends_lift_bind rfl fun revision hrevision => ?_
  refine ends_lift_bind rfl fun _ _ => ?_
  refine ends_lift_bind rfl fun _ _ => ?_
  refine ends_lift_bind rfl fun _ _ => ?_
  obtain ⟨candidate, character⟩ := advanced
  obtain ⟨-, rfl⟩ := nextRevision_eq_ok.mp (checked_eq_ok.mp hrevision)
  rw [rejectIf_eq_ok, not_not] at hstep
  have hintent := checked_eq_ok.mp hcommand
  simp only [HeroCreationCommand.validate, seq_eq_ok] at hintent
  exact ⟨hintent.2.2.2, hstep, candidate, hadvanced, rfl⟩

/-- The action of an intent is the one that its step expects. -/
theorem expectedAction_requiredStep (intent : HeroCreationIntent) :
    intent.requiredStep.expectedAction = .ok intent.action := by
  cases intent <;> rfl

/-- **A call that can be filled in succeeds.** -/
theorem applyTrusted_succeeds (hd : d.Going) {command : HeroCreationCommand} {context : TrustedMutationContext}
    (haddresses : d.Addresses command context) (hstep : d.step = command.intent.requiredStep)
    (hadvanced : d.advanced command.intent = .ok (candidate, character)) :
    Attempt.Succeeds (applyTrusted command context) d := by
  have hcommand := haddresses.commandValid
  have hcontext := haddresses.contextValid
  simp only [HeroCreationCommand.validate, seq_eq_ok, validateId_eq_ok] at hcommand
  simp only [TrustedMutationContext.validate, seq_eq_ok, validateId_eq_ok, rejectIf_eq_ok] at hcontext
  obtain ⟨-, hdraftId, hkey, hintent⟩ := hcommand
  obtain ⟨haudit, hactor, htime⟩ := hcontext
  have hfollows := advanced_follows hstep hadvanced
  have hnext := hd.next hintent hstep hadvanced
  have hlt := hd.revision_lt
  have hinTime : ¬ d.isExpired context.occurredAtEpochSeconds = true := by
    unfold isExpired
    rw [decide_eq_true_eq, Nat.not_lt]
    exact haddresses.inTime
  unfold applyTrusted
  rw [Attempt.succeeds_reading_bind]
  refine succeeds_lift_bind hd.validate ?_
  refine succeeds_lift_bind (checked_eq_ok.mpr haddresses.commandValid) ?_
  refine succeeds_lift_bind (checked_eq_ok.mpr haddresses.contextValid) ?_
  refine succeeds_lift_bind (checked_eq_ok.mpr (rejectIf_of_not (not_not.mpr haddresses.draftId))) ?_
  refine succeeds_lift_bind (checked_eq_ok.mpr (rejectIf_of_not (not_not.mpr haddresses.owner))) ?_
  refine succeeds_lift_bind (checked_eq_ok.mpr (rejectIf_of_not hinTime)) ?_
  refine succeeds_lift_bind (a := ()) (checked_eq_ok.mpr (checkRevision_eq_ok.mpr haddresses.revision.symm)) ?_
  refine succeeds_lift_bind (rejectIf_of_not (not_not.mpr hstep)) ?_
  refine succeeds_lift_bind hadvanced ?_
  refine succeeds_lift_bind (checked_eq_ok.mpr (nextRevision_eq_ok.mpr ⟨?_, rfl⟩)) ?_
  · rw [hfollows.revision]
    exact hlt
  refine succeeds_lift_bind hnext.validate ?_
  refine succeeds_lift_bind (a := ()) ?transition (succeeds_lift_bind (a := ()) ?created ?_)
  case transition =>
    refine checked_eq_ok.mpr ?_
    simp only [HeroCreationTransitionAudit.validate, bind_eq_ok, exists_unit, requireSchema_eq_ok, validateId_eq_ok,
      rejectIf_eq_ok, true_and]
    refine ⟨haudit, hactor, hd.identified.draftId, hkey, ?_, command.intent.action, ?_, not_not.mpr rfl⟩
    · rintro (hsum | horder | hzero)
      · exact hsum ⟨hlt, congrArg (· + 1) hfollows.revision.symm⟩
      · exact horder hfollows.step
      · exact htime hzero
    · show d.step.expectedAction = _
      rw [hstep]
      exact expectedAction_requiredStep _
  case created =>
    refine checked_eq_ok.mpr (checkSome_eq_ok.mpr fun audit haudited => ?_)
    obtain ⟨hero, rfl, rfl⟩ := Option.map_eq_some_iff.mp haudited
    obtain ⟨characterId, choices, heq, -, hcreate⟩ := advanced_character hadvanced
    obtain ⟨rfl, rfl, hcampaign, -, hsheet, -⟩ := HeroCharacter.create_eq_ok hcreate
    obtain ⟨-, scores, hderives⟩ := derives_of_deriveSheet hsheet
    rw [heq] at hintent
    simp only [CharacterCreatedAudit.validate, bind_eq_ok, exists_unit, requireSchema_eq_ok, validateId_eq_ok,
      rejectIf_eq_ok, true_and, hcampaign]
    refine ⟨haudit, hactor, hd.identified.draftId, validateId_eq_ok.mp hintent, hd.identified.campaignId,
      hderives.valid.validates, hero.sheet, hsheet, ?_⟩
    rintro (hdiffers | hzero)
    · exact hdiffers rfl
    · exact htime hzero
  exact ⟨_, _, rfl⟩

/-! ### Nothing that is expected is missing -/

/-- It is not a panic that it stops with. -/
def Calm {α : Type} (x : CreationResult α) : Prop := ∀ message, x ≠ .error (.panic message)

theorem calm_ok {a : α} : Calm (.ok a) := fun _ h => nomatch h

theorem calm_checked {x : HeroResult α} : Calm (checked x) := by
  intro message h
  cases x with
  | error e => cases h
  | ok a => cases h

theorem Calm.bind {x : CreationResult α} {f : α → CreationResult β} (hx : Calm x)
    (hf : ∀ a, x = .ok a → Calm (f a)) : Calm (x >>= f) := by
  cases x with
  | error e =>
    intro message h
    cases h
    exact hx message rfl
  | ok a => exact hf a rfl

/-- **An intent at its step finds what it expects.** -/
theorem advanced_calm (hf : d.Filled) (hstep : d.step = intent.requiredStep) :
    Calm (d.advanced intent) := by
  cases intent with
  | selectCampaignTheme | selectConcept => exact calm_ok
  | selectRules | assignAbilities | setPresentation => exact calm_checked.bind fun _ _ => calm_ok
  | review => exact calm_checked.bind fun _ _ => calm_checked.bind fun _ _ => calm_ok
  | commit => exact calm_checked.bind fun _ _ => calm_checked.bind fun _ _ => calm_ok
  | selectBackground selection =>
    obtain ⟨heroClass, hclass⟩ := exists_of_isSome hf.heroClass (by rw [hstep]; exact (show 3 ≤ 4 by decide))
    unfold advanced
    rw [hclass]
    exact calm_checked.bind fun _ _ => calm_ok
  | selectEquipmentAndSpells equipment wizardSpells =>
    obtain ⟨heroClass, hclass⟩ := exists_of_isSome hf.heroClass (by rw [hstep]; exact (show 3 ≤ 5 by decide))
    obtain ⟨assignment, hassignment⟩ := exists_of_isSome hf.assignment (by rw [hstep]; exact (show 4 ≤ 5 by decide))
    unfold advanced
    rw [hclass, hassignment]
    exact calm_checked.bind fun _ _ => calm_checked.bind fun _ _ => calm_checked.bind fun _ _ => calm_ok

theorem fails_lift_bind {x : CreationResult α} {f : α → Attempt HeroCreationDraft CreationStop β}
    {message : String} (hx : Calm x) (h : (Attempt.lift x >>= f).Fails d (.panic message) d') :
    ∃ a, x = .ok a ∧ (f a).Fails d (.panic message) d' := by
  cases x with
  | error e =>
    obtain ⟨he, -⟩ := Prod.mk.inj h
    cases he
    exact absurd rfl (hx message)
  | ok a => exact ⟨a, rfl, h⟩

theorem calm_rejectIf [Decidable c] {expected actual : CreationStep} :
    Calm (rejectIf c (.draftStepMismatch expected actual)) := by
  intro message h
  unfold rejectIf at h
  split at h <;> cases h

/-- **No call panics.** -/
theorem applyTrusted_calm (hd : d.Going) (command : HeroCreationCommand) (context : TrustedMutationContext)
    (message : String) : ¬ (applyTrusted command context).Fails d (.panic message) d' := by
  intro h
  unfold applyTrusted at h
  obtain ⟨_, -, h⟩ := fails_lift_bind (hd.validate ▸ calm_ok) h
  obtain ⟨_, hcommand, h⟩ := fails_lift_bind calm_checked h
  obtain ⟨_, -, h⟩ := fails_lift_bind calm_checked h
  obtain ⟨_, -, h⟩ := fails_lift_bind calm_checked h
  obtain ⟨_, -, h⟩ := fails_lift_bind calm_checked h
  obtain ⟨_, -, h⟩ := fails_lift_bind calm_checked h
  obtain ⟨_, -, h⟩ := fails_lift_bind calm_checked h
  obtain ⟨_, hstep, h⟩ := fails_lift_bind calm_rejectIf h
  rw [rejectIf_eq_ok, not_not] at hstep
  obtain ⟨⟨candidate, character⟩, hadvanced, h⟩ := fails_lift_bind (advanced_calm hd.filled hstep) h
  have hintent := checked_eq_ok.mp hcommand
  simp only [HeroCreationCommand.validate, seq_eq_ok] at hintent
  have hnext := hd.next hintent.2.2.2 hstep hadvanced
  obtain ⟨revision, hrevision, h⟩ := fails_lift_bind calm_checked h
  obtain ⟨-, rfl⟩ := nextRevision_eq_ok.mp (checked_eq_ok.mp hrevision)
  obtain ⟨_, -, h⟩ := fails_lift_bind (show Calm candidate.next.validate from hnext.validate ▸ calm_ok) h
  obtain ⟨_, -, h⟩ := fails_lift_bind calm_checked h
  obtain ⟨_, -, h⟩ := fails_lift_bind calm_checked h
  obtain ⟨he, -⟩ := Prod.mk.inj h
  cases he

/-! ### Any calls -/

/-- The draft that some calls leave, those that fail included. -/
def after (d : HeroCreationDraft) (calls : List (HeroCreationCommand × TrustedMutationContext)) : HeroCreationDraft :=
  calls.foldl (fun d call => ((applyTrusted call.1 call.2).run d).2) d

/-- **Step.** -/
theorem Going.applied (hd : d.Going) (command : HeroCreationCommand) (context : TrustedMutationContext) :
    ((applyTrusted command context).run d).2.Going := by
  refine ((applyTrusted_ends d command context).mono (fun _ _ h => h) ?_).left (I := Going) ?_
  · rintro _ rfl
    exact hd
  · rintro outcome d' ⟨hintent, hstep, candidate, hadvanced, rfl⟩
    exact hd.next hintent hstep hadvanced

/-- **Run.** -/
theorem Going.after (hd : d.Going) (calls : List (HeroCreationCommand × TrustedMutationContext)) :
    (d.after calls).Going := by
  induction calls generalizing d with
  | nil => exact hd
  | cons call calls ih => exact ih (hd.applied call.1 call.2)

/-- A new draft is at its first step. -/
theorem new_going {draftId campaignId ownerId : String} {expiresAtEpochSeconds : Nat}
    (h : new draftId campaignId ownerId expiresAtEpochSeconds = .ok d) : d.Going := by
  obtain ⟨hvalid, h⟩ := seq_eq_ok.mp h
  cases h
  obtain ⟨hi, hf, hs⟩ := validate_eq_ok.mp hvalid
  exact ⟨hi, hf, hs, rfl⟩

/-- What holds of a draft and of every call on it. -/
structure Creates (d : HeroCreationDraft) : Prop where
  valid : d.validate = .ok ()
  success : ∀ command context outcome d', Attempt.Returns (applyTrusted command context) d outcome d' →
    d'.validate = .ok () ∧ d'.revision = d.revision + 1 ∧ d.step = command.intent.requiredStep ∧
      d'.step.ordinal = d.step.ordinal + 1
  failure : ∀ command context stop d', Attempt.Fails (applyTrusted command context) d stop d' →
    d' = d ∧ ∀ message, stop ≠ .panic message
  goesOn : d.step ≠ .committed → ∃ command context, Attempt.Succeeds (applyTrusted command context) d
  reviewed : d.step = .review → ∀ command context, d.Addresses command context → command.intent = .review →
    ∃ outcome d', Attempt.Returns (applyTrusted command context) d outcome d' ∧ d'.step = .commit ∧
      d'.toChoices = d.toChoices
  committed : d.step = .commit → ∀ command context characterId, d.Addresses command context →
    command.intent = .commit characterId → ∃ outcome d' hero,
      Attempt.Returns (applyTrusted command context) d outcome d' ∧ outcome.character = some hero ∧
      hero.validate = .ok () ∧ d.toChoices = .ok hero.choices ∧ hero.characterId = characterId ∧
      hero.campaignId = d.campaignId ∧ hero.ownerId = d.ownerId

/-- **Hero creation never dead-ends**: whatever calls are made on a new draft, it stays valid, each call that succeeds
takes it one step on and one that fails leaves it alone, there is a call that succeeds at every step but the last, and
a reviewed draft becomes a valid hero of its choices. -/
theorem creation_never_dead_ends {draftId campaignId ownerId : String} {expiresAtEpochSeconds : Nat}
    {draft : HeroCreationDraft} (hnew : new draftId campaignId ownerId expiresAtEpochSeconds = .ok draft)
    (calls : List (HeroCreationCommand × TrustedMutationContext)) : (draft.after calls).Creates := by
  have hd := (new_going hnew).after calls
  generalize draft.after calls = d at hd ⊢
  have hi := hd.identified
  have hlate {step : CreationStep} (hstep : d.step = step) (h : 7 ≤ step.ordinal) : 7 ≤ d.step.ordinal := hstep ▸ h
  refine ⟨hd.validate, ?success, ?failure, ?goesOn, ?reviewed, ?committed⟩
  case success =>
    intro command context outcome d' h
    obtain ⟨hintent, hstep, candidate, hadvanced, rfl⟩ := (applyTrusted_ends d command context).of_returns h
    have hfollows := advanced_follows hstep hadvanced
    exact ⟨(hd.next hintent hstep hadvanced).validate, congrArg (· + 1) hfollows.revision, hstep, hfollows.step⟩
  case failure =>
    intro command context stop d' h
    refine ⟨(applyTrusted_ends d command context).of_fails h, ?_⟩
    rintro message rfl
    exact applyTrusted_calm hd command context message h
  case goesOn =>
    intro hopen
    obtain ⟨intent, hintent, hstep, ⟨candidate, character⟩, hadvanced⟩ := exists_intent hi hd.filled hd.sound hopen
    have hkey : isValidOpaqueId "key:one" = true := by decide
    have haudit : isValidOpaqueId "audit:one" = true := by decide
    refine ⟨⟨heroCommandSchemaVersion, d.draftId, d.revision, "key:one", intent⟩, ⟨"audit:one", d.ownerId, 1⟩,
      applyTrusted_succeeds hd ⟨?_, ?_, rfl, rfl, Nat.pos_of_ne_zero hi.expires, rfl⟩ hstep hadvanced⟩
    · simp only [HeroCreationCommand.validate, seq_eq_ok, requireSchema_eq_ok, validateId_eq_ok]
      exact ⟨trivial, hi.draftId, hkey, hintent⟩
    · simp only [TrustedMutationContext.validate, seq_eq_ok, validateId_eq_ok, rejectIf_eq_ok]
      exact ⟨haudit, hi.ownerId, Nat.one_ne_zero⟩
  case reviewed =>
    rintro hstep ⟨schemaVersion, draftId, expectedRevision, idempotencyKey, _⟩ context haddresses rfl
    obtain ⟨⟨candidate, character⟩, hadvanced⟩ := advanced_review hd.filled hd.sound (hlate hstep (by decide))
    obtain ⟨outcome, d', h⟩ := applyTrusted_succeeds hd haddresses hstep hadvanced
    obtain ⟨-, -, candidate, hadvanced, rfl⟩ := (applyTrusted_ends d _ context).of_returns h
    obtain ⟨_, -, hadvanced⟩ := bind_eq_ok.mp hadvanced
    obtain ⟨_, -, hadvanced⟩ := bind_eq_ok.mp hadvanced
    obtain ⟨rfl, -⟩ := Prod.mk.inj (Except.ok.inj hadvanced)
    exact ⟨outcome, _, h, rfl, rfl⟩
  case committed =>
    rintro hstep ⟨schemaVersion, draftId, expectedRevision, idempotencyKey, _⟩ context characterId haddresses rfl
    have hcommand := haddresses.commandValid
    simp only [HeroCreationCommand.validate, seq_eq_ok] at hcommand
    have hcharacter := validateId_eq_ok.mp hcommand.2.2.2
    obtain ⟨candidate, hero, hadvanced, hhero⟩ :=
      advanced_commit hi hd.filled hd.sound (hlate hstep (by decide)) hcharacter
    obtain ⟨outcome, d', h⟩ := applyTrusted_succeeds hd haddresses hstep hadvanced
    obtain ⟨-, -, _, hadvanced', rfl⟩ := (applyTrusted_ends d _ context).of_returns h
    obtain ⟨rfl, hmade⟩ := Prod.mk.inj (Except.ok.inj (hadvanced.symm.trans hadvanced'))
    exact ⟨outcome, _, hero, h, hmade.symm, hhero⟩

/-- A call on a draft by its owner. -/
def ownerCall (revision : Nat) (intent : HeroCreationIntent) : HeroCreationCommand × TrustedMutationContext :=
  (⟨heroCommandSchemaVersion, "draft:one", revision, "key:one", intent⟩, ⟨"audit:one", "owner:one", 1⟩)

/-- A Canal Guardian from the theme to the hero, with a second choice of the theme refused. -/
def guardianCalls : List (HeroCreationCommand × TrustedMutationContext) :=
  [ownerCall 0 (.selectCampaignTheme canalGuardian.pins), ownerCall 1 (.selectConcept canalGuardian.concept),
    ownerCall 2 (.selectCampaignTheme canalGuardian.pins), ownerCall 2 (.selectRules .human canalGuardian.heroClass),
    ownerCall 3 (.assignAbilities canalGuardian.abilityAssignment),
    ownerCall 4 (.selectBackground canalGuardian.background),
    ownerCall 5 (.selectEquipmentAndSpells canalGuardian.equipment canalGuardian.wizardSpells),
    ownerCall 6 (.setPresentation canalGuardian.presentation), ownerCall 7 .review, ownerCall 8 (.commit "hero:mara")]

theorem canalGuardian_committed : ∃ d, new "draft:one" "campaign:rain" "owner:one" 100 = .ok d ∧
    (d.after guardianCalls).step = .committed ∧ (d.after guardianCalls).Creates := by
  have hnew : new "draft:one" "campaign:rain" "owner:one" 100 = .ok _ := rfl
  exact ⟨_, hnew, by decide +kernel, creation_never_dead_ends hnew guardianCalls⟩

end HeroCreationDraft

end ManchesterArcana.Hero
