import ManchesterArcana.Encounter.Initiative

/-!
# `Encounter.State` — what a valid encounter state is

`EncounterState.validate` is the check the engine runs on the state it is given and on the state it returns.
It is embedded guard by guard in the order of the source, split where the source splits it: the envelope, the
live schema's runtime, the two participants, initiative, and the shape of each phase. `EncounterState.Valid`
names the parts, and `validate_eq_ok` says that the check accepts exactly the valid states.
-/

namespace ManchesterArcana.Encounter

open Effect Rules

/-- Distance between two positions on the one-dimensional battlefield. -/
def distance (left right : Nat) : Nat := absDiff left right

namespace EncounterState

/-- The combatant whose turn it is. -/
def currentActor (s : EncounterState) : Option CombatantState :=
  if s.currentActorId = some canalWardenId then some s.hero
  else if s.currentActorId = some sootWightId then some s.creature
  else none

def isSafeRestBoundary (s : EncounterState) : Bool :=
  decide (s.status = .victory) ||
    (decide (s.status = .defeat) && decide (s.lethalityPolicy = .storyRecovery) &&
      s.transition.any (·.storyRecoveryApplied))

def creatureAsleep (s : EncounterState) : Bool :=
  decide (CombatantStatusEffect.magicallyAsleep ∈ s.creature.statusEffects)

/-! ## Runtime of the live schema -/

/-- The content pack a schema version is pinned to. -/
def expectedContentPackId (schemaVersion : Nat) : String :=
  if schemaVersion = encounterSchemaVersion then encounterContentPackId else legacyEncounterContentPackId

structure ObjectValid (o : EncounterObjectState) (expectedId : String) (expectedPosition : Nat) : Prop where
  objectId : o.objectId = expectedId
  position : o.positionFeet = expectedPosition
  dimension : o.maximumDimensionFeet = 5
  weight : o.weightPounds = 10
  notMagic : o.isMagicItem = false
  light : ∀ rounds ∈ o.lightRemainingRounds, 1 ≤ rounds ∧ rounds ≤ 600

def validateObject (o : EncounterObjectState) (expectedId : String) (expectedPosition : Nat) :
    EncounterResult Unit :=
  rejectIf (o.objectId ≠ expectedId ∨ o.positionFeet ≠ expectedPosition ∨ o.maximumDimensionFeet ≠ 5 ∨
      o.weightPounds ≠ 10 ∨ o.isMagicItem ∨ ∃ rounds ∈ o.lightRemainingRounds, ¬ (1 ≤ rounds ∧ rounds ≤ 600))
    (.invalidState "authored utility-spell object state is invalid")

theorem validateObject_eq_ok {o : EncounterObjectState} {id : String} {pos : Nat} :
    validateObject o id pos = .ok () ↔ ObjectValid o id pos := by
  have hlight : (¬ ∃ rounds ∈ o.lightRemainingRounds, ¬ (1 ≤ rounds ∧ rounds ≤ 600)) ↔
      ∀ rounds ∈ o.lightRemainingRounds, 1 ≤ rounds ∧ rounds ≤ 600 := by
    simp only [not_exists, not_and_not_right]
  simp only [validateObject, rejectIf_eq_ok, not_or, not_not, Bool.not_eq_true, hlight]
  exact ⟨fun ⟨h₁, h₂, h₃, h₄, h₅, h₆⟩ => ⟨h₁, h₂, h₃, h₄, h₅, h₆⟩,
    fun hv => ⟨hv.objectId, hv.position, hv.dimension, hv.weight, hv.notMagic, hv.light⟩⟩

/-- The two authored objects, in their fixed order. -/
def validateObjects (live : EncounterLiveQ04State) : EncounterResult Unit :=
  match live.objects with
  | [first, second] => do
    validateObject first viaductRuneObjectId 0
    validateObject second sluiceLeverObjectId sluicePositionFeet
  | _ => .error (.invalidState "live Q04 state requires the two authored objects")

def validateMageHand (s : EncounterState) (live : EncounterLiveQ04State) : EncounterResult Unit :=
  match live.mageHand with
  | some hand => do
    hand.validate.mapError fun _ => .invalidState "persisted Mage Hand state is invalid"
    rejectIf (hand.handId ≠ mageHandId ∨ hand.casterId ≠ canalWardenId)
      (.invalidState "persisted Mage Hand identity is invalid")
    let position ← okOr live.mageHandPositionFeet
      (.invalidState "persisted Mage Hand is missing its authored position")
    rejectIf (position < s.map.minimumPositionFeet ∨ position > s.map.maximumPositionFeet ∨ ¬ 5 ∣ position ∨
        distance s.hero.positionFeet position ≠ hand.distanceFromCasterFeet)
      (.invalidState "persisted Mage Hand position and range are inconsistent")
  | none => rejectIf (live.mageHandPositionFeet.isSome)
      (.invalidState "Mage Hand position cannot outlive the hand")

def validateSleep (s : EncounterState) (live : EncounterLiveQ04State) : EncounterResult Unit :=
  match live.sleep with
  | some sleep => rejectIf (¬ (sleep.targetId = sootWightId ∧
      (1 ≤ sleep.remainingRounds ∧ sleep.remainingRounds ≤ 10) ∧ s.creatureAsleep ∧
      s.creature.lifeStatus = .conscious)) (.invalidState "Sleep duration and creature condition are inconsistent")
  | none => rejectIf (s.creatureAsleep)
      (.invalidState "Sleep duration and creature condition are inconsistent")

def validatePending (s : EncounterState) (live : EncounterLiveQ04State) : EncounterResult Unit :=
  match live.pendingAttackReaction with
  | some pending => do
    let resources ← okOr s.turnResources (.invalidState "a pending reaction requires active turn resources")
    rejectIf (s.status ≠ .active ∨ s.currentActorId ≠ some sootWightId ∨ pending.actorId ≠ sootWightId ∨
        pending.targetId ≠ canalWardenId ∨ pending.attackId ≠ sootWightAttackId ∨
        ¬ InRange 20 pending.naturalRoll ∨ pending.naturalRoll = 1 ∨
        (pending.naturalRoll ≠ 20 ∧ pending.attackTotal < pending.armorClass) ∨
        pending.armorClass ≠ s.hero.armorClass ∨ pending.critical ≠ decide (pending.naturalRoll = 20) ∨
        resources.actionAvailable ∨ live.shieldWard.isSome)
      (.invalidState "pending Shield reaction is not a real unresolved creature hit")
  | none => .ok ()

def validateWard (s : EncounterState) (live : EncounterLiveQ04State) : EncounterResult Unit :=
  rejectIf (∃ ward ∈ live.shieldWard, ward.casterId ≠ canalWardenId ∨ ward.armorClassBonus ≠ 5 ∨
      ward.immuneToMagicMissile = false ∨ ward.expiry ≠ .startOfCasterTurn ∨ s.status ≠ .active ∨
      s.currentActorId ≠ some sootWightId)
    (.invalidState "Shield ward duration state is invalid")

def validateRest (s : EncounterState) (live : EncounterLiveQ04State) : EncounterResult Unit :=
  rejectIf (∃ rest ∈ live.activeShortRest, s.isSafeRestBoundary = false ∨
      rest.boundaryId ≠ postEncounterRestBoundaryId ∨
      rest.startedAtCampaignMinute + shortRestMinutes > maxU64 ∨
      rest.startedAtCampaignMinute + shortRestMinutes ≠ rest.completesAtCampaignMinute ∨
      rest.completesAtCampaignMinute ≠ live.campaignTimeMinutes)
    (.invalidState "short rest is outside the trusted safe-boundary campaign clock")

/-- Live runtime that a ready encounter may not have. -/
def Progressed (live : EncounterLiveQ04State) : Prop :=
  live.mageHand.isSome ∨ live.mageHandPositionFeet.isSome ∨ live.sleep.isSome ∨
    live.pendingAttackReaction.isSome ∨ live.shieldWard.isSome ∨ live.activeShortRest.isSome ∨
    live.campaignTimeMinutes ≠ 0 ∨ live.lastLongRestCompletedAtCampaignMinute.isSome ∨
    ∃ o ∈ live.objects, o.lightRemainingRounds.isSome

instance (live : EncounterLiveQ04State) : Decidable (Progressed live) := by
  unfold Progressed; infer_instance

def validateLiveQ04 (s : EncounterState) : EncounterResult Unit := do
  let live ← okOr s.liveQ04 (.invalidState "schema-v3 encounter state requires live Q04 state")
  validateObjects live
  validateMageHand s live
  validateSleep s live
  validatePending s live
  validateWard s live
  validateRest s live
  rejectIf (∃ minute ∈ live.lastLongRestCompletedAtCampaignMinute, minute > live.campaignTimeMinutes)
    (.invalidState "long-rest completion is ahead of trusted campaign time")
  rejectIf (s.status = .ready ∧ Progressed live)
    (.invalidState "a ready v3 encounter contains progressed live Q04 state")

structure HandValid (s : EncounterState) (h : MageHandState) (position : Nat) : Prop where
  hand : h.Valid
  handId : h.handId = mageHandId
  casterId : h.casterId = canalWardenId
  position_ge : s.map.minimumPositionFeet ≤ position
  position_le : position ≤ s.map.maximumPositionFeet
  position_grid : 5 ∣ position
  distance : Encounter.distance s.hero.positionFeet position = h.distanceFromCasterFeet

/-- A real hit of the creature on its own turn that waits for the hero's reaction. -/
structure PendingValid (s : EncounterState) (live : EncounterLiveQ04State) (p : PendingAttackReaction) :
    Prop where
  resources : ∃ r, s.turnResources = some r ∧ r.actionAvailable = false
  status : s.status = .active
  turn : s.currentActorId = some sootWightId
  actorId : p.actorId = sootWightId
  targetId : p.targetId = canalWardenId
  attackId : p.attackId = sootWightAttackId
  natural : InRange 20 p.naturalRoll
  natural_ne_one : p.naturalRoll ≠ 1
  hits : p.naturalRoll = 20 ∨ (p.armorClass : Int) ≤ p.attackTotal
  armorClass : p.armorClass = s.hero.armorClass
  critical : p.critical = decide (p.naturalRoll = 20)
  noWard : live.shieldWard = none

structure WardValid (s : EncounterState) (w : ShieldWardState) : Prop where
  casterId : w.casterId = canalWardenId
  bonus : w.armorClassBonus = 5
  immune : w.immuneToMagicMissile = true
  status : s.status = .active
  turn : s.currentActorId = some sootWightId

structure RestValid (s : EncounterState) (live : EncounterLiveQ04State) (r : ShortRestState) : Prop where
  boundary : s.isSafeRestBoundary = true
  boundaryId : r.boundaryId = postEncounterRestBoundaryId
  fits : r.startedAtCampaignMinute + shortRestMinutes ≤ maxU64
  started : r.startedAtCampaignMinute + shortRestMinutes = r.completesAtCampaignMinute
  completes : r.completesAtCampaignMinute = live.campaignTimeMinutes

structure SleepValid (s : EncounterState) (sleep : EncounterSleepState) : Prop where
  targetId : sleep.targetId = sootWightId
  rounds : 1 ≤ sleep.remainingRounds ∧ sleep.remainingRounds ≤ 10
  asleep : s.creatureAsleep = true
  conscious : s.creature.lifeStatus = .conscious

structure LiveValid (s : EncounterState) (live : EncounterLiveQ04State) : Prop where
  objects : ∃ rune lever, live.objects = [rune, lever] ∧ ObjectValid rune viaductRuneObjectId 0 ∧
    ObjectValid lever sluiceLeverObjectId sluicePositionFeet
  hand : ∀ hand ∈ live.mageHand, ∃ position, live.mageHandPositionFeet = some position ∧
    HandValid s hand position
  noHand : live.mageHand = none → live.mageHandPositionFeet = none
  sleep : ∀ sleep ∈ live.sleep, SleepValid s sleep
  awake : live.sleep = none → s.creatureAsleep = false
  pending : ∀ p ∈ live.pendingAttackReaction, PendingValid s live p
  ward : ∀ w ∈ live.shieldWard, WardValid s w
  rest : ∀ r ∈ live.activeShortRest, RestValid s live r
  longRest : ∀ minute ∈ live.lastLongRestCompletedAtCampaignMinute, minute ≤ live.campaignTimeMinutes
  ready : s.status = .ready → ¬ Progressed live

/-! ### The live check, part by part -/

variable {live : EncounterLiveQ04State} {s : EncounterState}

theorem validateObjects_eq_ok :
    validateObjects live = .ok () ↔ ∃ rune lever, live.objects = [rune, lever] ∧
      ObjectValid rune viaductRuneObjectId 0 ∧ ObjectValid lever sluiceLeverObjectId sluicePositionFeet := by
  unfold validateObjects
  constructor
  · intro h
    split at h
    · rename_i rune lever heq
      obtain ⟨hr, hl⟩ := seq_eq_ok.mp h
      exact ⟨rune, lever, heq, validateObject_eq_ok.mp hr, validateObject_eq_ok.mp hl⟩
    · cases h
  · rintro ⟨rune, lever, heq, hr, hl⟩
    rw [heq]
    exact seq_eq_ok.mpr ⟨validateObject_eq_ok.mpr hr, validateObject_eq_ok.mpr hl⟩

theorem validateMageHand_eq_ok :
    validateMageHand s live = .ok () ↔
      (∀ hand ∈ live.mageHand, ∃ position, live.mageHandPositionFeet = some position ∧
        HandValid s hand position) ∧ (live.mageHand = none → live.mageHandPositionFeet = none) := by
  unfold validateMageHand
  rcases live.mageHand with _ | hand
  · simp [Option.isSome_iff_ne_none]
  · simp only [seq_eq_ok, mapError_eq_ok, MageHandState.validate_eq_ok, rejectIf_eq_ok, not_or, not_not]
    simp only [bind_eq_ok, okOr_eq_ok, rejectIf_eq_ok, not_or, not_not, Nat.not_lt]
    constructor
    · rintro ⟨hv, ⟨hid, hc⟩, position, hp, hge, hle, hgrid, hd⟩
      refine ⟨fun _ hh => ⟨position, hp, ?_⟩, fun hnone => by cases hnone⟩
      obtain rfl := Option.mem_some.mp hh
      exact ⟨hv, hid, hc, hge, hle, hgrid, hd⟩
    · rintro ⟨hh, -⟩
      obtain ⟨position, hp, hv⟩ := hh hand rfl
      exact ⟨hv.hand, ⟨hv.handId, hv.casterId⟩, position, hp, hv.position_ge, hv.position_le,
        hv.position_grid, hv.distance⟩

theorem validateSleep_eq_ok :
    validateSleep s live = .ok () ↔
      (∀ sleep ∈ live.sleep, SleepValid s sleep) ∧ (live.sleep = none → s.creatureAsleep = false) := by
  unfold validateSleep
  rcases live.sleep with _ | sleep
  · simp
  · simp only [rejectIf_eq_ok, not_not]
    constructor
    · rintro ⟨ht, hr, ha, hc⟩
      refine ⟨fun _ hh => ?_, nofun⟩
      obtain rfl := Option.mem_some.mp hh
      exact ⟨ht, hr, ha, hc⟩
    · rintro ⟨hh, -⟩
      have hv := hh sleep rfl
      exact ⟨hv.targetId, hv.rounds, hv.asleep, hv.conscious⟩

theorem validatePending_eq_ok :
    validatePending s live = .ok () ↔ ∀ p ∈ live.pendingAttackReaction, PendingValid s live p := by
  unfold validatePending
  rcases live.pendingAttackReaction with _ | p
  · simp
  · simp only [bind_eq_ok, rejectIf_eq_ok, okOr_eq_ok, not_or, not_not, Bool.not_eq_true,
      Option.isSome_eq_false_iff, Option.isNone_iff_eq_none]
    constructor
    · rintro ⟨r, hr, hst, ht, ha, htg, hat, hn, hn1, hh, hac, hcr, hra, hw⟩ _ hp
      obtain rfl := Option.mem_some.mp hp
      refine ⟨⟨r, hr, hra⟩, hst, ht, ha, htg, hat, hn, hn1, ?_, hac, hcr, hw⟩
      by_contra hcon
      exact hh ⟨fun h20 => hcon (.inl h20), by omega⟩
    · intro hh
      have hv := hh p rfl
      obtain ⟨r, hr, hra⟩ := hv.resources
      refine ⟨r, hr, hv.status, hv.turn, hv.actorId, hv.targetId, hv.attackId, hv.natural,
        hv.natural_ne_one, ?_, hv.armorClass, hv.critical, hra, hv.noWard⟩
      rintro ⟨h20, hlt⟩
      rcases hv.hits with h | h
      · exact h20 h
      · omega

theorem validateWard_eq_ok :
    validateWard s live = .ok () ↔ ∀ w ∈ live.shieldWard, WardValid s w := by
  simp only [validateWard, rejectIf_eq_ok, not_exists, not_and, not_or, not_not, Bool.not_eq_false]
  exact forall₂_congr fun w _ =>
    ⟨fun ⟨h₁, h₂, h₃, _, h₅, h₆⟩ => ⟨h₁, h₂, h₃, h₅, h₆⟩,
      fun hv => ⟨hv.casterId, hv.bonus, hv.immune, trivial, hv.status, hv.turn⟩⟩

theorem validateRest_eq_ok :
    validateRest s live = .ok () ↔ ∀ r ∈ live.activeShortRest, RestValid s live r := by
  simp only [validateRest, rejectIf_eq_ok, not_exists, not_and, not_or, not_not, Bool.not_eq_false,
    Nat.not_lt]
  exact forall₂_congr fun r _ =>
    ⟨fun ⟨h₁, h₂, h₃, h₄, h₅⟩ => ⟨h₁, h₂, h₃, h₄, h₅⟩,
      fun hv => ⟨hv.boundary, hv.boundaryId, hv.fits, hv.started, hv.completes⟩⟩

/-- **The live check accepts exactly the valid runtimes.** -/
theorem validateLiveQ04_eq_ok :
    s.validateLiveQ04 = .ok () ↔ ∃ live, s.liveQ04 = some live ∧ LiveValid s live := by
  rw [validateLiveQ04, bind_eq_ok]
  simp only [seq_eq_ok, okOr_eq_ok, rejectIf_eq_ok, validateObjects_eq_ok,
    validateMageHand_eq_ok, validateSleep_eq_ok, validatePending_eq_ok, validateWard_eq_ok,
    validateRest_eq_ok, not_exists, not_and, Nat.not_lt]
  refine exists_congr fun live => and_congr_right fun _ => ⟨?_, ?_⟩
  · rintro ⟨ho, ⟨hh, hnh⟩, ⟨hs, hns⟩, hp, hw, hr, hl, hready⟩
    exact ⟨ho, hh, hnh, hs, hns, hp, hw, hr, hl, hready⟩
  · intro hv
    exact ⟨hv.objects, ⟨hv.hand, hv.noHand⟩, ⟨hv.sleep, hv.awake⟩, hv.pending, hv.ward, hv.rest,
      hv.longRest, hv.ready⟩

end EncounterState

end ManchesterArcana.Encounter
