import ManchesterArcana.Hero.Character

/-!
# `Hero.Progression` — rewards, levels, and the counters of an encounter

Each call is a change of the hero that may fail half way, an `Attempt`. A reward and a level are worked out on a
candidate that replaces the hero at the very end, so that a failure leaves the hero alone; the counters of an
encounter are written one after the other, and a failure leaves those that were written. A hero is valid whichever
way a call ends (`HeroCall.attempt_ends`), so what holds of a call holds after any interleaving (`progression`).
-/

namespace ManchesterArcana.Hero

open Effect TypedGm
open Attempt (ends_lift_bind ends_reading_bind succeeds_lift_bind)

/-! ## Commands -/

inductive TrustedRewardPolicy where
  | mvpXpV1
  deriving DecidableEq

def TrustedRewardPolicy.experienceFor : TrustedRewardPolicy → RewardTier → Nat
  | .mvpXpV1, .minor => 50
  | .mvpXpV1, .significant => 150
  | .mvpXpV1, .major => levelTwoXp

structure TrustedMutationContext where
  auditId : String
  actorId : String
  occurredAtEpochSeconds : Nat
  deriving DecidableEq

def TrustedMutationContext.validate (c : TrustedMutationContext) : HeroResult Unit := do
  validateId "audit_id" c.auditId
  validateId "actor_id" c.actorId
  rejectIf (c.occurredAtEpochSeconds = 0) (.invalidField "occurred_at" "trusted audit time must be non-zero")

structure RewardAwardCommand where
  schemaVersion : Nat
  characterId : String
  expectedRevision : Nat
  idempotencyKey : String
  tier : RewardTier
  deriving DecidableEq

structure LevelUpCommand where
  schemaVersion : Nat
  characterId : String
  expectedRevision : Nat
  idempotencyKey : String
  choice : LevelUpChoice
  deriving DecidableEq

/-- The check that both commands make. -/
def validateCommand (schemaVersion : Nat) (characterId idempotencyKey : String) : HeroResult Unit := do
  requireSchema schemaVersion heroCommandSchemaVersion
  validateId "character_id" characterId
  validateId "idempotency_key" idempotencyKey

def RewardAwardCommand.validate (c : RewardAwardCommand) : HeroResult Unit :=
  validateCommand c.schemaVersion c.characterId c.idempotencyKey

def LevelUpCommand.validate (c : LevelUpCommand) : HeroResult Unit :=
  validateCommand c.schemaVersion c.characterId c.idempotencyKey

/-! ## What is recorded of a call -/

structure RewardAwardAudit where
  schemaVersion : Nat
  auditId : String
  actorId : String
  characterId : String
  idempotencyKey : String
  revisionBefore : Nat
  revisionAfter : Nat
  policy : TrustedRewardPolicy
  tier : RewardTier
  experienceAwarded : Nat
  experienceBefore : Nat
  experienceAfter : Nat
  level : SupportedLevel
  levelUpEligible : Bool
  occurredAtEpochSeconds : Nat
  deriving DecidableEq

structure LevelUpAudit where
  schemaVersion : Nat
  auditId : String
  actorId : String
  characterId : String
  idempotencyKey : String
  revisionBefore : Nat
  revisionAfter : Nat
  levelBefore : SupportedLevel
  levelAfter : SupportedLevel
  choice : LevelUpChoice
  maximumHitPointsBefore : Nat
  maximumHitPointsAfter : Nat
  resourcesBefore : List ResourcePool
  resourcesAfter : List ResourcePool
  occurredAtEpochSeconds : Nat
  deriving DecidableEq

/-- The identifiers of an audit, which both kinds check first. -/
def validateAudit (schemaVersion : Nat) (auditId actorId characterId idempotencyKey : String) :
    HeroResult Unit := do
  requireSchema schemaVersion heroAuditSchemaVersion
  validateId "audit_id" auditId
  validateId "actor_id" actorId
  validateId "character_id" characterId
  validateId "idempotency_key" idempotencyKey

/-- `u32::MAX`, the most experience that can be counted. -/
def maxExperience : Nat := 2 ^ 32 - 1

/-- `checked_add(..) == Some(total)`. -/
def SumsTo (maximum a b total : Nat) : Prop := a + b ≤ maximum ∧ a + b = total

instance (maximum a b total : Nat) : Decidable (SumsTo maximum a b total) := inferInstanceAs (Decidable (_ ∧ _))

def RewardAwardAudit.validate (a : RewardAwardAudit) : HeroResult Unit := do
  validateAudit a.schemaVersion a.auditId a.actorId a.characterId a.idempotencyKey
  rejectIf (¬ SumsTo maxRevision a.revisionBefore 1 a.revisionAfter ∨
      ¬ SumsTo maxExperience a.experienceBefore a.experienceAwarded a.experienceAfter ∨
      a.experienceAwarded ≠ a.policy.experienceFor a.tier ∨
      a.levelUpEligible ≠ (decide (a.level = .one) && decide (levelTwoXp ≤ a.experienceAfter)) ∨
      a.occurredAtEpochSeconds = 0)
    (.invalidField "reward_audit" "immutable reward facts do not recompute under the trusted policy")

def LevelUpAudit.validate (a : LevelUpAudit) : HeroResult Unit := do
  validateAudit a.schemaVersion a.auditId a.actorId a.characterId a.idempotencyKey
  rejectIf (¬ SumsTo maxRevision a.revisionBefore 1 a.revisionAfter ∨ a.levelBefore ≠ .one ∨ a.levelAfter ≠ .two ∨
      a.maximumHitPointsAfter ≤ a.maximumHitPointsBefore ∨ a.resourcesBefore = a.resourcesAfter ∨
      a.occurredAtEpochSeconds = 0)
    (.invalidField "level_up_audit" "immutable level-up facts do not describe one valid transition")

/-! ## The refusal of a third level -/

def maxUnsupportedAlternatives : Nat := 8

/-- Alternatives are labelled, and no action is offered twice. -/
def validateAlternatives : List ActionCapability → List AuthoredAlternative → HeroResult Unit
  | _, [] => .ok ()
  | seen, alternative :: alternatives => do
    rejectIf (alternative.action ∈ seen)
      (.invalidField "unsupported.alternatives" "alternative actions must be unique")
    validateText "unsupported.alternatives.label" alternative.label maxToneLimitChars true
    validateAlternatives (alternative.action :: seen) alternatives

/-- `UnsupportedMechanic::validate`. -/
def validateUnsupported (u : UnsupportedMechanic) : HeroResult Unit := do
  requireSchema u.schemaVersion heroUnsupportedSchemaVersion
  validateId "unsupported.requested_id" u.requestedId
  rejectIf (u.alternatives = [] ∨ maxUnsupportedAlternatives < u.alternatives.length)
    (.invalidField "unsupported.alternatives" "one to eight authored alternatives are required")
  validateAlternatives [] u.alternatives

def levelThreeUnsupported : UnsupportedMechanic where
  schemaVersion := heroUnsupportedSchemaVersion
  code := .notAvailableForHero
  requestedId := "advancement.level-three"
  alternatives := [⟨.search, "Continue the story without an unsupported level gain"⟩]

/-- Refuse a total that is due for level three. -/
def refuseLevelThree (experienceAfter : Nat) : HeroResult Unit :=
  if levelThreeXp ≤ experienceAfter then do
    validateUnsupported levelThreeUnsupported
    .error (.unsupportedMechanic levelThreeUnsupported)
  else .ok ()

/-! ## The calls -/

/-- A change of a hero that may fail half way. -/
abbrev Changing (α : Type) := Attempt HeroCharacter HeroError α

/-- Set the counter of the first pool of a kind. -/
def setCurrent (kind : ResourceKind) (current : Nat) : List ResourcePool → List ResourcePool
  | [] => []
  | pool :: pools =>
    if pool.resource = kind then { pool with current } :: pools else pool :: setCurrent kind current pools

namespace HeroCharacter

def setResources (h : HeroCharacter) (resources : List ResourcePool) : HeroCharacter :=
  { h with sheet := { h.sheet with resources } }

/-- `checked_add` of one to the revision. -/
def nextRevision (h : HeroCharacter) : HeroResult Nat := do
  rejectIf (maxRevision ≤ h.revision) (.invalidField "revision" "revision overflowed")
  return h.revision + 1

/-- Write the counters of an encounter into the pools, one after the other. -/
def writeCurrents : List ResourceKind → List (ResourceKind × Nat) → Changing Unit
  | _, [] => pure ()
  | seen, (kind, current) :: rest => do
    Attempt.lift (rejectIf (kind ∈ seen)
      (.invalidField "resource_currents" "encounter resources cannot contain duplicate pools"))
    let self ← Attempt.reading id
    let pool ← Attempt.lift (okOr (self.sheet.resources.find? (·.resource = kind))
      (.invalidField "resource_currents" "encounter resources cannot introduce a new hero pool"))
    Attempt.lift (rejectIf (pool.maximum < current)
      (.invalidField "resource_currents" "encounter resource current cannot exceed the derived maximum"))
    Attempt.writing fun self => self.setResources (setCurrent kind current self.sheet.resources)
    writeCurrents (kind :: seen) rest

/-- Take over hit points and counters from an encounter. -/
def synchronizeEncounterRuntime (currentHitPoints : Nat) (resourceCurrents : List (ResourceKind × Nat)) :
    Changing Unit := do
  let self ← Attempt.reading id
  Attempt.lift self.validate
  Attempt.lift (rejectIf (self.sheet.maximumHitPoints < currentHitPoints)
    (.invalidField "current_hit_points" "encounter hit points cannot exceed the hero maximum"))
  Attempt.lift (rejectIf (resourceCurrents.length ≠ self.sheet.resources.length)
    (.invalidField "resource_currents"
      "encounter resources must contain every authoritative hero pool exactly once"))
  writeCurrents [] resourceCurrents
  Attempt.writing fun self => { self with sheet := { self.sheet with currentHitPoints } }
  let self ← Attempt.reading id
  let revision ← Attempt.lift self.nextRevision
  Attempt.writing fun self => { self with revision }
  let self ← Attempt.reading id
  Attempt.lift self.validate

def levelUpEligible (h : HeroCharacter) : Bool :=
  decide (h.level = .one) && decide (levelTwoXp ≤ h.experiencePoints)

/-- The one way on that a class has. -/
def classChoice : HeroClass → LevelUpChoice
  | .fighter => .fighter .fixedAverage
  | .wizard => .wizard .fixedAverage .evocation

def validLevelUpChoices (h : HeroCharacter) : HeroResult (List LevelUpChoice) := do
  h.validate
  return if h.levelUpEligible = false then [] else [classChoice h.choices.heroClass.heroClass]

def applyReward (command : RewardAwardCommand) (policy : TrustedRewardPolicy) (context : TrustedMutationContext) :
    Changing RewardAwardAudit := do
  let self ← Attempt.reading id
  Attempt.lift self.validate
  Attempt.lift command.validate
  Attempt.lift context.validate
  Attempt.lift (rejectIf (command.characterId ≠ self.characterId)
    (.invalidField "character_id" "command targets a different character"))
  Attempt.lift (checkRevision self.revision command.expectedRevision)
  let awarded := policy.experienceFor command.tier
  Attempt.lift (rejectIf (maxExperience < self.experiencePoints + awarded)
    (.invalidField "experience_points" "experience point total overflowed"))
  let experienceAfter := self.experiencePoints + awarded
  Attempt.lift (refuseLevelThree experienceAfter)
  let revision ← Attempt.lift self.nextRevision
  let candidate := { self with experiencePoints := experienceAfter, revision }
  Attempt.lift candidate.validate
  let audit : RewardAwardAudit :=
    { schemaVersion := heroAuditSchemaVersion
      auditId := context.auditId
      actorId := context.actorId
      characterId := self.characterId
      idempotencyKey := command.idempotencyKey
      revisionBefore := self.revision
      revisionAfter := candidate.revision
      policy
      tier := command.tier
      experienceAwarded := awarded
      experienceBefore := self.experiencePoints
      experienceAfter
      level := candidate.level
      levelUpEligible := candidate.levelUpEligible
      occurredAtEpochSeconds := context.occurredAtEpochSeconds }
  Attempt.lift audit.validate
  Attempt.writing fun _ => candidate
  return audit

/-- `u8::MAX` and `u16::MAX`, the ends of a counter and of hit points. -/
def maxCounter : Nat := 255
def maxHitPoints : Nat := 65535

/-- A pool of the next level, with as much spent as in the pool before. -/
def carryOver (previous : List ResourcePool) (advanced : ResourcePool) : ResourcePool :=
  match previous.find? (·.resource = advanced.resource) with
  | some pool =>
    { advanced with
      current := min (min maxCounter (pool.current + (advanced.maximum - pool.maximum))) advanced.maximum }
  | none => advanced

/-- The hero with the next level's sheet, its hit points and counters carried over. -/
def advanced (h : HeroCharacter) (choice : LevelUpChoice) : HeroResult HeroCharacter := do
  let revision ← h.nextRevision
  let sheet ← deriveSheet h.choices .two [choice]
  rejectIf (sheet.maximumHitPoints < h.sheet.maximumHitPoints)
    (.invalidField "sheet.maximum_hit_points" "level-up cannot reduce maximum hit points")
  let hitPointIncrease := sheet.maximumHitPoints - h.sheet.maximumHitPoints
  rejectIf (maxHitPoints < h.sheet.currentHitPoints + hitPointIncrease)
    (.invalidField "sheet.current_hit_points" "level-up hit points overflowed")
  return { h with
    level := .two
    advancementChoices := [choice]
    revision
    sheet := { sheet with
      currentHitPoints := min (h.sheet.currentHitPoints + hitPointIncrease) sheet.maximumHitPoints
      resources := sheet.resources.map (carryOver h.sheet.resources) } }

def levelUp (command : LevelUpCommand) (context : TrustedMutationContext) : Changing LevelUpAudit := do
  let self ← Attempt.reading id
  Attempt.lift self.validate
  Attempt.lift command.validate
  Attempt.lift context.validate
  Attempt.lift (rejectIf (command.characterId ≠ self.characterId)
    (.invalidField "character_id" "command targets a different character"))
  Attempt.lift (checkRevision self.revision command.expectedRevision)
  Attempt.lift (rejectIf (self.levelUpEligible = false)
    (.invalidField "level" "hero is not eligible for the supported level-one-to-two transition"))
  let validChoices ← Attempt.lift self.validLevelUpChoices
  Attempt.lift (rejectIf (command.choice ∉ validChoices)
    (.invalidField "level_up.choice" "choice does not match the pinned class and supported path"))
  let candidate ← Attempt.lift (self.advanced command.choice)
  Attempt.lift candidate.validate
  let audit : LevelUpAudit :=
    { schemaVersion := heroAuditSchemaVersion
      auditId := context.auditId
      actorId := context.actorId
      characterId := self.characterId
      idempotencyKey := command.idempotencyKey
      revisionBefore := self.revision
      revisionAfter := candidate.revision
      levelBefore := .one
      levelAfter := .two
      choice := command.choice
      maximumHitPointsBefore := self.sheet.maximumHitPoints
      maximumHitPointsAfter := candidate.sheet.maximumHitPoints
      resourcesBefore := self.sheet.resources
      resourcesAfter := candidate.sheet.resources
      occurredAtEpochSeconds := context.occurredAtEpochSeconds }
  Attempt.lift audit.validate
  Attempt.writing fun _ => candidate
  return audit

/-! ## Checks that pass -/

variable {h : HeroCharacter} {expected next : DerivedHeroSheet} {choice : LevelUpChoice}
  {context : TrustedMutationContext}

theorem nextRevision_eq_ok {revision : Nat} :
    h.nextRevision = .ok revision ↔ h.revision < maxRevision ∧ revision = h.revision + 1 := by
  rw [nextRevision, seq_eq_ok, rejectIf_eq_ok, Nat.not_le, pure_eq, Except.ok.injEq, eq_comm (a := revision)]

/-- What a command and a context have been checked for is all that an audit checks of them. -/
theorem validateAudit_ok {schemaVersion : Nat} {characterId idempotencyKey : String}
    (hcontext : context.validate = .ok ()) (hcommand : validateCommand schemaVersion characterId idempotencyKey = .ok ()) :
    validateAudit heroAuditSchemaVersion context.auditId context.actorId characterId idempotencyKey = .ok () ∧
      context.occurredAtEpochSeconds ≠ 0 := by
  simp only [TrustedMutationContext.validate, validateCommand, validateAudit, seq_eq_ok, requireSchema_eq_ok,
    validateId_eq_ok, rejectIf_eq_ok] at *
  exact ⟨⟨trivial, hcontext.1, hcontext.2.1, hcommand.2.1, hcommand.2.2⟩, hcontext.2.2⟩

/-! ## Changes that keep a hero valid -/

section

variable {h : HeroCharacter} {expected : DerivedHeroSheet}

theorem Valid.maximumHitPoints (hv : h.Valid expected) : h.sheet.maximumHitPoints = expected.maximumHitPoints := by
  rw [hv.sheet]

theorem Valid.setResources (hv : h.Valid expected) {resources : List ResourcePool}
    (hresources : List.Forall₂ ResourcePool.Within resources expected.resources) :
    (h.setResources resources).Valid expected where
  schema := hv.schema
  characterId := hv.characterId
  campaignId := hv.campaignId
  ownerId := hv.ownerId
  grown := hv.grown
  experience := hv.experience
  derived := hv.derived
  sheet := by
    show { h.sheet with resources } = _
    rw [hv.sheet]
    rfl
  hitPoints := hv.hitPoints
  resources := hresources

theorem Valid.setHitPoints (hv : h.Valid expected) {currentHitPoints : Nat}
    (hle : currentHitPoints ≤ h.sheet.maximumHitPoints) :
    Valid { h with sheet := { h.sheet with currentHitPoints } } expected where
  schema := hv.schema
  characterId := hv.characterId
  campaignId := hv.campaignId
  ownerId := hv.ownerId
  grown := hv.grown
  experience := hv.experience
  derived := hv.derived
  sheet := by
    show { h.sheet with currentHitPoints } = _
    rw [hv.sheet]
  hitPoints := hle
  resources := hv.resources

theorem Valid.setExperience (hv : h.Valid expected) {experiencePoints : Nat} (hle : h.experiencePoints ≤ experiencePoints)
    (hlt : experiencePoints < levelThreeXp) (revision : Nat) :
    Valid { h with experiencePoints, revision } expected where
  schema := hv.schema
  characterId := hv.characterId
  campaignId := hv.campaignId
  ownerId := hv.ownerId
  grown hlevel := Nat.le_trans (hv.grown hlevel) hle
  experience := hlt
  derived := hv.derived
  sheet := hv.sheet
  hitPoints := hv.hitPoints
  resources := hv.resources

/-- Setting a counter that the pool can hold. -/
theorem within_setCurrent {kind : ResourceKind} {current : Nat} {pool : ResourcePool} {pools es : List ResourcePool}
    (hwithin : List.Forall₂ ResourcePool.Within pools es)
    (hfind : pools.find? (·.resource = kind) = some pool) (hle : current ≤ pool.maximum) :
    List.Forall₂ ResourcePool.Within (setCurrent kind current pools) es := by
  induction hwithin with
  | nil => exact .nil
  | @cons p e ps es hp hps ih =>
    unfold setCurrent
    by_cases hkind : p.resource = kind
    · rw [List.find?_cons_of_pos (by simpa using hkind)] at hfind
      obtain rfl := Option.some.inj hfind
      rw [if_pos hkind]
      exact .cons ⟨hp.resource, hp.maximum, hp.recoversOn, hle⟩ hps
    · rw [List.find?_cons_of_neg (by simpa using hkind)] at hfind
      rw [if_neg hkind]
      exact .cons hp (ih hfind)

/-- **Loop.** However far the counters are written, the hero is valid. -/
theorem writeCurrents_ends (hv : h.Valid expected) (seen : List ResourceKind) (currents : List (ResourceKind × Nat)) :
    Attempt.Ends (writeCurrents seen currents) h (fun _ h' => h'.Valid expected ∧ h'.revision = h.revision)
      fun h' => h'.Valid expected := by
  induction currents generalizing h seen with
  | nil => exact ⟨hv, rfl⟩
  | cons entry rest ih =>
    obtain ⟨kind, current⟩ := entry
    unfold writeCurrents
    refine ends_lift_bind hv fun _ _ => ?_
    rw [ends_reading_bind]
    refine ends_lift_bind hv fun pool hfind => ?_
    refine ends_lift_bind hv fun _ hle => ?_
    rw [Attempt.ends_writing_bind]
    rw [rejectIf_eq_ok, Nat.not_lt] at hle
    exact ih (hv.setResources (within_setCurrent hv.resources (okOr_eq_ok.mp hfind) hle)) (kind :: seen)

/-- **Whichever way an encounter's counters end up, the hero is valid.** -/
theorem synchronizeEncounterRuntime_ends (hv : h.Valid expected) (currentHitPoints : Nat)
    (currents : List (ResourceKind × Nat)) :
    Attempt.Ends (synchronizeEncounterRuntime currentHitPoints currents) h
      (fun _ h' => h'.Valid expected ∧ h'.revision = h.revision + 1) fun h' => h'.Valid expected := by
  unfold synchronizeEncounterRuntime
  rw [ends_reading_bind]
  refine ends_lift_bind hv fun _ _ => ?_
  refine ends_lift_bind hv fun _ hhp => ?_
  refine ends_lift_bind hv fun _ _ => ?_
  refine Attempt.ends_bind (writeCurrents_ends hv [] currents) fun _ written hwritten => ?_
  obtain ⟨hwv, hrevision⟩ := hwritten
  rw [Attempt.ends_writing_bind, ends_reading_bind]
  rw [rejectIf_eq_ok, Nat.not_lt] at hhp
  have hle : currentHitPoints ≤ written.sheet.maximumHitPoints := by
    rw [hwv.maximumHitPoints, ← hv.maximumHitPoints]
    exact hhp
  have hset := hwv.setHitPoints hle
  refine ends_lift_bind hset fun revision hnext => ?_
  obtain ⟨-, rfl⟩ := nextRevision_eq_ok.mp hnext
  rw [Attempt.ends_writing_bind, ends_reading_bind]
  have hdone := hset.setExperience (Nat.le_refl _) hset.experience (written.revision + 1)
  exact Attempt.ends_lift hdone fun _ _ => ⟨hdone, congrArg (· + 1) hrevision⟩

end

/-! ## Rewards -/

/-- **A reward adds the policy's experience, or leaves the hero as it was.** -/
theorem applyReward_ends (h : HeroCharacter) (command : RewardAwardCommand) (policy : TrustedRewardPolicy)
    (context : TrustedMutationContext) :
    Attempt.Ends (applyReward command policy context) h
      (fun _ h' => h.revision < maxRevision ∧ h'.validate = .ok () ∧ h'.revision = h.revision + 1 ∧
        h'.experiencePoints = h.experiencePoints + policy.experienceFor command.tier)
      fun h' => h' = h := by
  unfold applyReward
  rw [ends_reading_bind]
  refine ends_lift_bind rfl fun _ _ => ?_
  refine ends_lift_bind rfl fun _ _ => ?_
  refine ends_lift_bind rfl fun _ _ => ?_
  refine ends_lift_bind rfl fun _ _ => ?_
  refine ends_lift_bind rfl fun _ _ => ?_
  refine ends_lift_bind rfl fun _ _ => ?_
  refine ends_lift_bind rfl fun _ _ => ?_
  refine ends_lift_bind rfl fun revision hrevision => ?_
  refine ends_lift_bind rfl fun _ hcandidate => ?_
  refine ends_lift_bind rfl fun _ _ => ?_
  obtain ⟨hlt, rfl⟩ := nextRevision_eq_ok.mp hrevision
  exact ⟨hlt, hcandidate, rfl, rfl⟩

/-- **A reward that stays below level three is given.** -/
theorem applyReward_succeeds (hv : h.Valid expected)
    {command : RewardAwardCommand} {policy : TrustedRewardPolicy}
    (hcommand : command.validate = .ok ()) (hcontext : context.validate = .ok ())
    (hcharacter : command.characterId = h.characterId) (hexpected : command.expectedRevision = h.revision)
    (hrevision : h.revision < maxRevision)
    (htotal : h.experiencePoints + policy.experienceFor command.tier < levelThreeXp) :
    Attempt.Succeeds (applyReward command policy context) h := by
  have hself : h.validate = .ok () := validate_eq_ok.mpr ⟨expected, hv⟩
  have hcandidate := validate_eq_ok.mpr ⟨expected, hv.setExperience (Nat.le_add_right _ _) htotal (h.revision + 1)⟩
  obtain ⟨hids, htime⟩ := validateAudit_ok hcontext hcommand
  rw [hcharacter] at hids
  have hsmall : h.experiencePoints + policy.experienceFor command.tier ≤ maxExperience :=
    Nat.le_trans (Nat.le_of_lt htotal) (by decide)
  unfold applyReward
  rw [Attempt.succeeds_reading_bind]
  refine succeeds_lift_bind hself ?_
  refine succeeds_lift_bind hcommand ?_
  refine succeeds_lift_bind hcontext ?_
  refine succeeds_lift_bind (rejectIf_of_not (not_not.mpr hcharacter)) ?_
  refine succeeds_lift_bind (a := ()) (checkRevision_eq_ok.mpr hexpected.symm) ?_
  refine succeeds_lift_bind (rejectIf_of_not (Nat.not_lt.mpr hsmall)) ?_
  refine succeeds_lift_bind (if_neg (Nat.not_le.mpr htotal)) ?_
  refine succeeds_lift_bind (nextRevision_eq_ok.mpr ⟨hrevision, rfl⟩) ?_
  refine succeeds_lift_bind hcandidate ?_
  refine succeeds_lift_bind (a := ()) ?_ Attempt.succeeds_pure
  -- the audit is put together from what was just checked
  unfold RewardAwardAudit.validate
  refine seq_eq_ok.mpr ⟨hids, rejectIf_of_not ?_⟩
  rintro (hrev | hxp | haward | heligible | hzero)
  · exact hrev ⟨hrevision, rfl⟩
  · exact hxp ⟨hsmall, rfl⟩
  · exact haward rfl
  · exact heligible rfl
  · exact htime hzero

/-! ## Levels -/

variable {choices : List LevelUpChoice}

theorem mem_validLevelUpChoices
    (hchoices : h.validLevelUpChoices = .ok choices) (hmem : choice ∈ choices) :
    choice.heroClass = h.choices.heroClass.heroClass := by
  rw [validLevelUpChoices, seq_eq_ok, pure_eq, Except.ok.injEq] at hchoices
  obtain ⟨-, rfl⟩ := hchoices
  split at hmem
  · cases hmem
  · rw [List.mem_singleton] at hmem
    rw [hmem]
    cases h.choices.heroClass.heroClass <;> rfl

/-- A hero at level one, with the sheet it has and the one it grows into. -/
structure Grows (h : HeroCharacter) (expected next : DerivedHeroSheet) : Prop where
  valid : h.Valid expected
  hitPoints : expected.maximumHitPoints < next.maximumHitPoints
  few : next.maximumHitPoints ≤ maxHitPoints
  before : expected.resources = deriveResources h.choices.heroClass.heroClass .one
  after : next.resources = deriveResources h.choices.heroClass.heroClass .two

/-- A hero that is due for a level has the next level's sheet to grow into. -/
theorem Valid.grows (hv : h.Valid expected) (hlevel : h.level = .one)
    (hclass : choice.heroClass = h.choices.heroClass.heroClass) :
    ∃ next, deriveSheet h.choices .two [choice] = .ok next ∧ h.Grows expected next := by
  obtain ⟨-, scores, hderives⟩ := derives_of_deriveSheet hv.derived
  rw [hlevel] at hderives
  have hadvancement : checkAdvancement h.choices .two [choice] = .ok () := by
    refine rejectIf_of_not (not_not.mpr ?_)
    rw [List.map_singleton, hclass]
  obtain ⟨next, hnext, hnextDerives⟩ := deriveSheet_ok hderives.valid hadvancement
  obtain ⟨hgrows, hfew⟩ := maximumHitPoints_grows h.choices.heroClass.heroClass scores
  refine ⟨next, hnext, hv, ?_, ?_, hderives.resources, hnextDerives.resources⟩
  · rw [hderives.maximumHitPoints, hnextDerives.maximumHitPoints]
    exact hgrows
  · rw [hnextDerives.maximumHitPoints]
    exact Nat.le_trans hfew (by decide)

/-- Whatever two pools agree in, the lists of them agree in. -/
theorem map_eq_of_within {β : Type} {f : ResourcePool → β} (hf : ∀ pool e, pool.Within e → f pool = f e)
    {pools expected : List ResourcePool} (h : List.Forall₂ ResourcePool.Within pools expected) :
    pools.map f = expected.map f := by
  induction h with
  | nil => rfl
  | cons hp _ ih => rw [List.map_cons, List.map_cons, hf _ _ hp, ih]

theorem exists_within {pools expected : List ResourcePool} (h : List.Forall₂ ResourcePool.Within pools expected)
    {pool : ResourcePool} (hmem : pool ∈ pools) : ∃ e ∈ expected, pool.Within e := by
  induction h with
  | nil => cases hmem
  | @cons p e ps es hp _ ih =>
    rcases List.mem_cons.mp hmem with rfl | hmem
    · exact ⟨e, List.mem_cons_self, hp⟩
    · obtain ⟨e', he', hwithin⟩ := ih hmem
      exact ⟨e', List.mem_cons_of_mem e he', hwithin⟩

/-- No counter is anywhere near its end. -/
theorem deriveResources_small (heroClass : HeroClass) (level : SupportedLevel) :
    ∀ pool ∈ deriveResources heroClass level, pool.maximum ≤ maxCounter := by
  cases heroClass <;> cases level <;> decide

namespace Grows

variable {h : HeroCharacter} {expected next : DerivedHeroSheet}

/-- **A pool that was there before is as far spent as it was.** -/
theorem carryOver_spent (hg : h.Grows expected next) {pool advanced : ResourcePool} (hpool : pool ∈ h.sheet.resources)
    (hadvanced : advanced ∈ next.resources) (hkind : pool.resource = advanced.resource) :
    (carryOver h.sheet.resources advanced).maximum - (carryOver h.sheet.resources advanced).current =
      pool.maximum - pool.current := by
  have hnodup : (h.sheet.resources.map (·.resource)).Nodup := by
    rw [map_eq_of_within (fun _ _ hp => hp.resource) hg.valid.resources, hg.before]
    exact deriveResources_nodup _ _
  -- the kinds are distinct, so this pool is the one that is carried over
  have hfind : h.sheet.resources.find? (·.resource = advanced.resource) = some pool := by
    rw [← hkind]
    exact find?_of_nodup hnodup hpool
  obtain ⟨e, he, hwithin⟩ := exists_within hg.valid.resources hpool
  rw [hg.before] at he
  rw [hg.after] at hadvanced
  obtain ⟨grown, hgrown, hsame, hle⟩ := deriveResources_grows _ e he
  obtain rfl : grown = advanced :=
    List.inj_on_of_nodup_map (deriveResources_nodup _ .two) hgrown hadvanced
      (hsame.trans (hwithin.resource.symm.trans hkind))
  have hsmall := deriveResources_small _ _ grown hgrown
  have hmaximum := hwithin.maximum
  have hcurrent := hwithin.current
  rw [carryOver, hfind]
  -- neither the end of the counter nor the new maximum cuts the sum
  show grown.maximum - min (min maxCounter (pool.current + (grown.maximum - pool.maximum))) grown.maximum = _
  omega

/-- A pool that is new is full. -/
theorem carryOver_new (hg : h.Grows expected next) {advanced : ResourcePool} (hadvanced : advanced ∈ next.resources)
    (hnew : ∀ pool ∈ h.sheet.resources, pool.resource ≠ advanced.resource) :
    carryOver h.sheet.resources advanced = advanced ∧ advanced.current = advanced.maximum := by
  constructor
  · have hfind : h.sheet.resources.find? (·.resource = advanced.resource) = none :=
      List.find?_eq_none.mpr fun pool hpool => by simpa using hnew pool hpool
    rw [carryOver, hfind]
  · rw [hg.after] at hadvanced
    exact deriveResources_full _ _ advanced hadvanced

end Grows

theorem carryOver_maximum (previous : List ResourcePool) (advanced : ResourcePool) :
    (carryOver previous advanced).maximum = advanced.maximum := by
  unfold carryOver
  split <;> rfl

/-- A level shows in the pools. -/
theorem Grows.pools_differ (hg : h.Grows expected next) :
    h.sheet.resources ≠ next.resources.map (carryOver h.sheet.resources) := by
  intro heq
  have hcarried : (next.resources.map (carryOver h.sheet.resources)).map (·.maximum) =
      next.resources.map (·.maximum) := by
    rw [List.map_map]
    exact List.map_congr_left fun advanced _ => carryOver_maximum h.sheet.resources advanced
  have hmaxima := congrArg (List.map (·.maximum)) heq
  rw [map_eq_of_within (fun _ _ hp => hp.maximum) hg.valid.resources, hcarried, hg.before, hg.after] at hmaxima
  revert hmaxima
  cases h.choices.heroClass.heroClass <;> decide

theorem carryOver_within {previous : List ResourcePool} {advanced : ResourcePool}
    (hfull : advanced.current = advanced.maximum) : (carryOver previous advanced).Within advanced := by
  unfold carryOver
  split
  · exact ⟨rfl, rfl, rfl, Nat.min_le_right _ _⟩
  · exact ⟨rfl, rfl, rfl, Nat.le_of_eq hfull⟩

/-- The hero with the next level's sheet. -/
def grown (h : HeroCharacter) (choice : LevelUpChoice) (next : DerivedHeroSheet) : HeroCharacter :=
  { h with
    level := .two
    advancementChoices := [choice]
    revision := h.revision + 1
    sheet := { next with
      currentHitPoints := min (h.sheet.currentHitPoints + (next.maximumHitPoints - h.sheet.maximumHitPoints))
        next.maximumHitPoints
      resources := next.resources.map (carryOver h.sheet.resources) } }

theorem advanced_eq_ok {h' : HeroCharacter} (hadvanced : h.advanced choice = .ok h') :
    h.revision < maxRevision ∧ ∃ next, deriveSheet h.choices .two [choice] = .ok next ∧ h' = h.grown choice next := by
  simp only [advanced, bind_eq_ok, exists_unit, nextRevision_eq_ok, pure_eq, Except.ok.injEq] at hadvanced
  obtain ⟨_, ⟨hrevision, rfl⟩, next, hnext, -, -, rfl⟩ := hadvanced
  exact ⟨hrevision, next, hnext, rfl⟩

theorem Grows.advanced_ok (hg : h.Grows expected next) (hnext : deriveSheet h.choices .two [choice] = .ok next)
    (hrevision : h.revision < maxRevision) : h.advanced choice = .ok (h.grown choice next) := by
  have hmaximum := hg.valid.maximumHitPoints
  have hcurrent := hg.valid.hitPoints
  have hgrows := hg.hitPoints
  have hfew := hg.few
  unfold advanced
  rw [nextRevision_eq_ok.mpr ⟨hrevision, rfl⟩, ok_bind, hnext, ok_bind, rejectIf_of_not (by omega), ok_bind]
  dsimp only
  rw [rejectIf_of_not (by omega)]
  rfl

/-- **The hero that has grown is valid.** -/
theorem Grows.grown_valid (hg : h.Grows expected next) (hnext : deriveSheet h.choices .two [choice] = .ok next)
    (hxp : levelTwoXp ≤ h.experiencePoints) : (h.grown choice next).Valid next where
  schema := hg.valid.schema
  characterId := hg.valid.characterId
  campaignId := hg.valid.campaignId
  ownerId := hg.valid.ownerId
  grown _ := hxp
  experience := hg.valid.experience
  derived := hnext
  sheet := rfl
  hitPoints := Nat.min_le_right _ _
  resources := by
    -- a pool carried over is compared with the one it was carried into
    show List.Forall₂ _ (next.resources.map _) next.resources
    rw [List.forall₂_map_left_iff, List.forall₂_same]
    intro advanced hmem
    refine carryOver_within ?_
    rw [hg.after] at hmem
    exact deriveResources_full _ _ advanced hmem

/-- **A level is gained, or the hero stays as it was.** -/
theorem levelUp_ends (h : HeroCharacter) (command : LevelUpCommand) (context : TrustedMutationContext) :
    Attempt.Ends (levelUp command context) h
      (fun _ h' => h'.validate = .ok () ∧ h.levelUpEligible = true ∧
        command.choice.heroClass = h.choices.heroClass.heroClass ∧ h.advanced command.choice = .ok h')
      fun h' => h' = h := by
  unfold levelUp
  rw [ends_reading_bind]
  -- nothing is stored before the last check, so that a failure of any of them leaves the hero as it was
  refine ends_lift_bind rfl fun _ _ => ?_
  refine ends_lift_bind rfl fun _ _ => ?_
  refine ends_lift_bind rfl fun _ _ => ?_
  refine ends_lift_bind rfl fun _ _ => ?_
  refine ends_lift_bind rfl fun _ _ => ?_
  refine ends_lift_bind rfl fun _ heligible => ?_
  refine ends_lift_bind rfl fun choices hchoices => ?_
  refine ends_lift_bind rfl fun _ hmem => ?_
  refine ends_lift_bind rfl fun candidate hadvanced => ?_
  refine ends_lift_bind rfl fun _ hcandidate => ?_
  refine ends_lift_bind rfl fun _ _ => ?_
  rw [rejectIf_eq_ok, Bool.not_eq_false] at heligible
  rw [rejectIf_eq_ok, not_not] at hmem
  exact ⟨hcandidate, heligible, mem_validLevelUpChoices hchoices hmem, hadvanced⟩

theorem levelUpEligible_iff :
    h.levelUpEligible = true ↔ h.level = .one ∧ levelTwoXp ≤ h.experiencePoints := by
  rw [levelUpEligible, Bool.and_eq_true, decide_eq_true_eq, decide_eq_true_eq]

/-- **A hero that is due for a level gains it.** -/
theorem levelUp_succeeds (hv : h.Valid expected)
    {command : LevelUpCommand}
    (hcommand : command.validate = .ok ()) (hcontext : context.validate = .ok ())
    (hcharacter : command.characterId = h.characterId) (hexpected : command.expectedRevision = h.revision)
    (hrevision : h.revision < maxRevision) (heligible : h.levelUpEligible = true)
    (hchoices : h.validLevelUpChoices = .ok choices) (hchoice : command.choice ∈ choices) :
    Attempt.Succeeds (levelUp command context) h := by
  have hself : h.validate = .ok () := validate_eq_ok.mpr ⟨expected, hv⟩
  obtain ⟨hlevel, hxp⟩ := levelUpEligible_iff.mp heligible
  obtain ⟨next, hnext, hg⟩ := hv.grows hlevel (mem_validLevelUpChoices hchoices hchoice)
  have hcandidate := validate_eq_ok.mpr ⟨next, hg.grown_valid hnext hxp⟩
  obtain ⟨hids, htime⟩ := validateAudit_ok hcontext hcommand
  rw [hcharacter] at hids
  unfold levelUp
  rw [Attempt.succeeds_reading_bind]
  refine succeeds_lift_bind hself ?_
  refine succeeds_lift_bind hcommand ?_
  refine succeeds_lift_bind hcontext ?_
  refine succeeds_lift_bind (rejectIf_of_not (not_not.mpr hcharacter)) ?_
  refine succeeds_lift_bind (a := ()) (checkRevision_eq_ok.mpr hexpected.symm) ?_
  refine succeeds_lift_bind (rejectIf_of_not (Bool.not_eq_false _ ▸ heligible)) ?_
  refine succeeds_lift_bind hchoices ?_
  refine succeeds_lift_bind (rejectIf_of_not (not_not.mpr hchoice)) ?_
  refine succeeds_lift_bind (hg.advanced_ok hnext hrevision) ?_
  refine succeeds_lift_bind hcandidate ?_
  refine succeeds_lift_bind (a := ()) ?_ Attempt.succeeds_pure
  unfold LevelUpAudit.validate
  refine seq_eq_ok.mpr ⟨hids, rejectIf_of_not ?_⟩
  -- the audit asks that the level shows: in the revision, the hit points and the pools
  rintro (hrev | hbefore | hafter | hhp | hresources | hzero)
  · exact hrev ⟨hrevision, rfl⟩
  · exact hbefore rfl
  · exact hafter rfl
  · refine absurd hhp (Nat.not_le.mpr ?_)
    show h.sheet.maximumHitPoints < next.maximumHitPoints
    rw [hv.maximumHitPoints]
    exact hg.hitPoints
  · exact hg.pools_differ hresources
  · exact htime hzero

/-- What was spent before a level is what is spent after it. -/
structure KeepsSpent (h h' : HeroCharacter) : Prop where
  hitPoints : h'.sheet.maximumHitPoints - h'.sheet.currentHitPoints =
    h.sheet.maximumHitPoints - h.sheet.currentHitPoints
  kept : ∀ pool ∈ h.sheet.resources, ∃ pool' ∈ h'.sheet.resources, pool'.resource = pool.resource
  pools : ∀ pool ∈ h.sheet.resources, ∀ pool' ∈ h'.sheet.resources, pool'.resource = pool.resource →
    pool'.maximum - pool'.current = pool.maximum - pool.current
  fresh : ∀ pool' ∈ h'.sheet.resources, (∀ pool ∈ h.sheet.resources, pool.resource ≠ pool'.resource) →
    pool'.current = pool'.maximum

theorem carryOver_resource (previous : List ResourcePool) (advanced : ResourcePool) :
    (carryOver previous advanced).resource = advanced.resource := by
  unfold carryOver
  split <;> rfl

/-- **A level leaves spent what was spent.** -/
theorem Grows.keepsSpent (hg : h.Grows expected next)
    (choice : LevelUpChoice) : h.KeepsSpent (h.grown choice next) where
  hitPoints := by
    have hmaximum := hg.valid.maximumHitPoints
    have hcurrent := hg.valid.hitPoints
    have hgrows := hg.hitPoints
    show next.maximumHitPoints - min (h.sheet.currentHitPoints + (next.maximumHitPoints - h.sheet.maximumHitPoints))
      next.maximumHitPoints = _
    omega
  kept := by
    intro pool hpool
    obtain ⟨e, he, hwithin⟩ := exists_within hg.valid.resources hpool
    rw [hg.before] at he
    obtain ⟨advanced, hadvanced, hsame, -⟩ := deriveResources_grows _ e he
    rw [← hg.after] at hadvanced
    refine ⟨_, List.mem_map_of_mem hadvanced, ?_⟩
    rw [carryOver_resource, hsame, hwithin.resource]
  pools := by
    intro pool hpool pool' hpool' hkind
    obtain ⟨advanced, hadvanced, rfl⟩ := List.mem_map.mp hpool'
    rw [carryOver_resource] at hkind
    exact hg.carryOver_spent hpool hadvanced hkind.symm
  fresh := by
    intro pool' hpool' hnew
    obtain ⟨advanced, hadvanced, rfl⟩ := List.mem_map.mp hpool'
    rw [carryOver_resource] at hnew
    obtain ⟨heq, hfull⟩ := hg.carryOver_new hadvanced hnew
    rw [heq]
    exact hfull

/-- **A level is gained with what was spent still spent, or the hero stays as it was.** -/
theorem levelUp_keepsSpent (hv : h.Valid expected)
    (command : LevelUpCommand) (context : TrustedMutationContext) :
    Attempt.Ends (levelUp command context) h
      (fun _ h' => h'.validate = .ok () ∧ h'.revision = h.revision + 1 ∧ h.KeepsSpent h') fun h' => h' = h := by
  refine (levelUp_ends h command context).mono ?_ fun _ heq => heq
  rintro _ h' ⟨hvalidate, heligible, hclass, hadvanced⟩
  obtain ⟨next, hnext, hg⟩ := hv.grows (levelUpEligible_iff.mp heligible).1 hclass
  obtain ⟨-, next', hnext', rfl⟩ := advanced_eq_ok hadvanced
  obtain rfl := Except.ok.inj (hnext.symm.trans hnext')
  exact ⟨hvalidate, rfl, hg.keepsSpent command.choice⟩

end HeroCharacter

/-! ## Interleavings -/

open HeroCharacter

/-- One of the three calls. -/
inductive HeroCall where
  | reward (command : RewardAwardCommand) (policy : TrustedRewardPolicy) (context : TrustedMutationContext)
  | levelUp (command : LevelUpCommand) (context : TrustedMutationContext)
  | synchronize (currentHitPoints : Nat) (resourceCurrents : List (ResourceKind × Nat))

def HeroCall.attempt : HeroCall → Changing Unit
  | .reward command policy context => do
    let _ ← applyReward command policy context
    return ()
  | .levelUp command context => do
    let _ ← HeroCharacter.levelUp command context
    return ()
  | .synchronize currentHitPoints resourceCurrents => synchronizeEncounterRuntime currentHitPoints resourceCurrents

/-- The hero that some calls leave, those that fail included. -/
def HeroCharacter.after (h : HeroCharacter) (calls : List HeroCall) : HeroCharacter :=
  calls.foldl (fun h call => (call.attempt.run h).2) h

variable {h : HeroCharacter}

/-- **Step.** A call that succeeds leaves a valid hero with the next revision, one that fails a valid hero. -/
theorem HeroCall.attempt_ends {expected : DerivedHeroSheet} (hv : h.Valid expected)
    (call : HeroCall) :
    Attempt.Ends call.attempt h (fun _ h' => h'.validate = .ok () ∧ h'.revision = h.revision + 1)
      fun h' => h'.validate = .ok () := by
  have hself : h.validate = .ok () := validate_eq_ok.mpr ⟨expected, hv⟩
  cases call with
  | reward command policy context =>
    refine Attempt.ends_bind ((applyReward_ends h command policy context).mono (fun _ _ hq => hq) ?_) ?_
    · rintro _ rfl
      exact hself
    · rintro audit h' ⟨-, hvalidate, hrevision, -⟩
      exact ⟨hvalidate, hrevision⟩
  | levelUp command context =>
    refine Attempt.ends_bind ((levelUp_keepsSpent hv command context).mono (fun _ _ hq => hq) ?_) ?_
    · rintro _ rfl
      exact hself
    · rintro audit h' ⟨hvalidate, hrevision, -⟩
      exact ⟨hvalidate, hrevision⟩
  | synchronize currentHitPoints resourceCurrents =>
    refine (synchronizeEncounterRuntime_ends hv currentHitPoints resourceCurrents).mono ?_ ?_
    · rintro _ h' ⟨hv', hrevision⟩
      exact ⟨validate_eq_ok.mpr ⟨expected, hv'⟩, hrevision⟩
    · intro h' hv'
      exact validate_eq_ok.mpr ⟨expected, hv'⟩

/-- **Run.** Whatever is called, the hero that is left is valid. -/
theorem HeroCharacter.after_valid (hvalid : h.validate = .ok ()) (calls : List HeroCall) :
    (h.after calls).validate = .ok () := by
  induction calls generalizing h with
  | nil => exact hvalid
  | cons call calls ih =>
    obtain ⟨expected, hv⟩ := validate_eq_ok.mp hvalid
    exact ih ((call.attempt_ends hv).left fun _ _ hq => hq.1)

/-- What holds of a hero and of every call on it. -/
structure Progresses (h : HeroCharacter) : Prop where
  valid : h.validate = .ok ()
  success : ∀ call h', Attempt.Returns (HeroCall.attempt call) h () h' →
    h'.validate = .ok () ∧ h'.revision = h.revision + 1
  spent : ∀ command context audit h', Attempt.Returns (levelUp command context) h audit h' → h.KeepsSpent h'
  levels : ∀ (command : LevelUpCommand) (context : TrustedMutationContext) choices,
    h.levelUpEligible = true → context.validate = .ok () → command.validate = .ok () →
    command.characterId = h.characterId → command.expectedRevision = h.revision → h.revision < maxRevision →
    h.validLevelUpChoices = .ok choices → command.choice ∈ choices → Attempt.Succeeds (levelUp command context) h
  rewards : ∀ (command : RewardAwardCommand) policy (context : TrustedMutationContext),
    context.validate = .ok () → command.validate = .ok () → command.characterId = h.characterId →
    command.expectedRevision = h.revision → h.revision < maxRevision →
    h.experiencePoints + policy.experienceFor command.tier < levelThreeXp →
    ∃ audit h', Attempt.Returns (applyReward command policy context) h audit h' ∧
      h'.experiencePoints = h.experiencePoints + policy.experienceFor command.tier
  rewardFails : ∀ command policy context e h', Attempt.Fails (applyReward command policy context) h e h' → h' = h
  levelFails : ∀ command context e h', Attempt.Fails (levelUp command context) h e h' → h' = h

/-- **Progression.** After any calls on a valid hero, those that fail included: it is valid, and a call that succeeds
    keeps it so with the next revision; a level keeps what was spent, and is gained by a hero that is due for it;
    a reward that stays below level three is given; a reward or a level that fails leaves the hero as it was. -/
theorem progression {h : HeroCharacter} (hvalid : h.validate = .ok ()) (calls : List HeroCall) :
    Progresses (h.after calls) := by
  have hafter := h.after_valid hvalid calls
  generalize h.after calls = h at hafter
  obtain ⟨expected, hv⟩ := validate_eq_ok.mp hafter
  constructor
  case valid => exact hafter
  case success =>
    intro call h' hreturns
    exact (call.attempt_ends hv).of_returns hreturns
  case spent =>
    intro command context audit h' hreturns
    exact ((levelUp_keepsSpent hv command context).of_returns hreturns).2.2
  case levels =>
    intro command context choices heligible hcontext hcommand hcharacter hexpected hrevision hchoices hchoice
    exact levelUp_succeeds hv hcommand hcontext hcharacter hexpected hrevision heligible hchoices hchoice
  case rewards =>
    intro command policy context hcontext hcommand hcharacter hexpected hrevision htotal
    obtain ⟨audit, h', hreturns⟩ :=
      applyReward_succeeds hv hcommand hcontext hcharacter hexpected hrevision htotal
    exact ⟨audit, h', hreturns, ((applyReward_ends h command policy context).of_returns hreturns).2.2.2⟩
  case rewardFails =>
    intro command policy context e h' hfails
    exact (applyReward_ends h command policy context).of_fails hfails
  case levelFails =>
    intro command context e h' hfails
    exact (levelUp_ends h command context).of_fails hfails

def trustedContext : TrustedMutationContext := ⟨"audit:one", "actor:one", 1⟩

def majorReward (expectedRevision : Nat) : RewardAwardCommand :=
  ⟨heroCommandSchemaVersion, "hero:mara", expectedRevision, "key:one", .major⟩

def fighterLevel (expectedRevision : Nat) : LevelUpCommand :=
  ⟨heroCommandSchemaVersion, "hero:mara", expectedRevision, "key:two", .fighter .fixedAverage⟩

/-- A guardian that is rewarded, wounded, and gains a level. -/
theorem canalGuardian_progresses :
    ∃ hero, HeroCharacter.create "hero:mara" "campaign:rain" "owner:one" canalGuardian = .ok hero ∧
      Progresses (hero.after [.reward (majorReward 0) .mvpXpV1 trustedContext,
        .synchronize 3 [(.hitDiceD10, 0), (.secondWind, 1)], .levelUp (fighterLevel 2) trustedContext]) := by
  obtain ⟨hero, hcreate, hvalid, -⟩ := canalGuardian_created
  exact ⟨hero, hcreate, progression hvalid _⟩

/-- **The last revision is the end of it**: a hero there is refused a reward that stays below level three. -/
theorem lastRevision_refused :
    ∃ hero, HeroCharacter.create "hero:mara" "campaign:rain" "owner:one" canalGuardian = .ok hero ∧
      HeroCharacter.validate { hero with revision := maxRevision } = .ok () ∧
      trustedContext.validate = .ok () ∧ (majorReward maxRevision).validate = .ok () ∧
      (majorReward maxRevision).characterId = hero.characterId ∧
      hero.experiencePoints + TrustedRewardPolicy.experienceFor .mvpXpV1 .major < levelThreeXp ∧
      ¬ Attempt.Succeeds (applyReward (majorReward maxRevision) .mvpXpV1 trustedContext)
        { hero with revision := maxRevision } := by
  obtain ⟨hero, hcreate, hvalid, hid, -, hxp⟩ := canalGuardian_created
  refine ⟨hero, hcreate, ?_, by decide, by decide, hid.symm, by rw [hxp]; decide, ?_⟩
  · obtain ⟨expected, hv⟩ := validate_eq_ok.mp hvalid
    exact validate_eq_ok.mpr ⟨expected, hv.setExperience (Nat.le_refl _) hv.experience maxRevision⟩
  · rintro ⟨audit, h', hreturns⟩
    exact Nat.lt_irrefl _ ((applyReward_ends _ _ _ _).of_returns hreturns).1

end ManchesterArcana.Hero
