import ManchesterArcana.Effect.Run
import ManchesterArcana.Rules.Durations
import ManchesterArcana.Rules.Resources

/-!
# `Rules.Movement` — moving, acting and ending the turn

A turn keeps the movement that remains twice: in the movement state, in steps of five feet, and in the action
economy. Moving and standing up change the first and leave the second to the caller, who has to synchronize
them. Standing up costs half the speed, which for every other admitted speed is no multiple of five feet; a
turn that has spent it passes no check any more and cannot be ended.
-/

namespace ManchesterArcana.Rules

open Effect

/-! ## Movement -/

/-- A fighter of the second level acts twice in a turn, and may dash with both actions. -/
def maxMvpDashesPerTurn : Nat := 2

structure MovementState where
  baseSpeedFeet : Nat
  remainingFeet : Nat
  positionFeet : Nat
  deriving DecidableEq

namespace MovementState

def new (speedFeet positionFeet : Nat) : RulesMatrixResult MovementState := do
  rejectIf (speedFeet = 0 ∨ speedFeet % 5 ≠ 0 ∨ positionFeet % 5 ≠ 0)
    (.invalidState "speed and position must use positive five-foot movement")
  return ⟨speedFeet, speedFeet, positionFeet⟩

def validate (m : MovementState) : RulesMatrixResult Unit :=
  rejectIf (m.baseSpeedFeet = 0 ∨ m.baseSpeedFeet % 5 ≠ 0 ∨ m.remainingFeet % 5 ≠ 0 ∨ m.positionFeet % 5 ≠ 0 ∨
      m.remainingFeet > min (m.baseSpeedFeet * (1 + maxMvpDashesPerTurn)) maxU16)
    (.invalidState "movement state exceeds the level-two Fighter Dash profile")

def reset (m : MovementState) : MovementState := { m with remainingFeet := m.baseSpeedFeet }

structure Valid (m : MovementState) : Prop where
  speed_pos : 0 < m.baseSpeedFeet
  speed_steps : m.baseSpeedFeet % 5 = 0
  remaining_steps : m.remainingFeet % 5 = 0
  position_steps : m.positionFeet % 5 = 0
  remaining_le : m.remainingFeet ≤ min (m.baseSpeedFeet * (1 + maxMvpDashesPerTurn)) maxU16

variable {m : MovementState}

theorem validate_eq_ok : m.validate = .ok () ↔ m.Valid := by
  simp only [validate, rejectIf_eq_ok, not_or, not_not, Nat.not_lt]
  exact ⟨fun ⟨h₁, h₂, h₃, h₄, h₅⟩ => ⟨Nat.pos_of_ne_zero h₁, h₂, h₃, h₄, h₅⟩,
    fun h => ⟨Nat.ne_of_gt h.speed_pos, h.speed_steps, h.remaining_steps, h.position_steps, h.remaining_le⟩⟩

/-- The distance to a destination. -/
def distance (m : MovementState) (destinationFeet : Nat) : Nat :=
  max m.positionFeet destinationFeet - min m.positionFeet destinationFeet

variable {destinationFeet : Nat}

theorem distance_eq_zero :
    m.distance destinationFeet = 0 ↔ m.positionFeet = destinationFeet := by
  unfold distance
  omega

/-- Between places in steps of five feet the distance is one too. -/
theorem distance_steps (hfrom : m.positionFeet % 5 = 0)
    (hto : destinationFeet % 5 = 0) : m.distance destinationFeet % 5 = 0 := by
  unfold distance
  omega

end MovementState

structure MovementContext where
  difficultTerrain : Bool
  crawling : Bool
  deriving DecidableEq

/-- Every foot costs one more for difficult terrain, and one more for crawling. -/
def MovementContext.multiplier (c : MovementContext) : Nat :=
  1 + c.difficultTerrain.toNat + c.crawling.toNat

theorem MovementContext.multiplier_ne_zero (c : MovementContext) : ¬ c.multiplier = 0 := by
  unfold multiplier
  omega

/-- Move to a destination. The movement state is written once nothing can fail any more. -/
def moveTo (movement : MovementState) (destinationFeet : Nat) (context : MovementContext)
    (conditions : ConditionSet) : RulesMatrixResult (Nat × MovementState) := do
  movement.validate
  rejectIf (destinationFeet % 5 ≠ 0) (.invalidIntent "movement destination must use five-foot increments")
  let effects ← conditionEffects conditions .abilityCheck
  rejectIf (effects.speedIsZero = true) (.invalidIntent "current conditions reduce speed to zero")
  let cost := movement.distance destinationFeet * context.multiplier
  rejectIf (cost > maxU16) .arithmeticOverflow
  rejectIf (cost > movement.remainingFeet) (.invalidIntent "movement cost exceeds the remaining movement budget")
  return (cost, { movement with remainingFeet := movement.remainingFeet - cost, positionFeet := destinationFeet })

/-- Stand up, for half the speed. -/
def standFromProne (movement : MovementState) (conditions : ConditionSet) :
    RulesMatrixResult (Nat × MovementState × ConditionSet) := do
  movement.validate
  conditions.validate
  rejectIf (conditions.contains .prone = false) (.invalidIntent "actor is not prone")
  let effects ← conditionEffects conditions .abilityCheck
  rejectIf (effects.speedIsZero = true) (.invalidIntent "an actor with zero speed cannot stand")
  let cost := movement.baseSpeedFeet / 2
  rejectIf (movement.remainingFeet < cost) (.invalidIntent "standing costs more movement than remains")
  return (cost, { movement with remainingFeet := movement.remainingFeet - cost },
    { conditions with active := conditions.active.filter fun c => decide (c.condition ≠ .prone) })

/-! ## Core actions -/

inductive CoreActionEffect where
  | attackCommitted
  | spellCastCommitted (spell : SpellId)
  | dashed (movementGainedFeet : Nat)
  | disengagedUntilTurnEnd
  | dodgingUntilNextTurn (benefitActive : Bool)
  | helpGranted (targetId : String)
  | hideCheckRequested
  | readied (trigger : ReadyTrigger)
  | searchCheckRequested
  | objectUsed (item : EquipmentId)
  deriving DecidableEq

def spendAction (economy : ActionEconomy) (availability : ActionAvailability) : RulesMatrixResult ActionEconomy := do
  rejectIf (availability.isAvailable = false) (.invalidIntent "blocked action cannot be spent")
  match availability.resource with
  | some resource => (economy.spend resource).mapError .core
  | none => return economy

/-- The turn-local part of an action that was spent: what it amounts to, and the movement a Dash gains. -/
def coreActionEffect (movement : MovementState) (effects : ConditionEffects) :
    ActionContext → RulesMatrixResult (CoreActionEffect × Option Nat)
  | .attack .. => .ok (.attackCommitted, none)
  | .castSpell spell .. => .ok (.spellCastCommitted spell, none)
  | .dash => do
    let movementGainedFeet := if effects.speedIsZero then 0 else movement.baseSpeedFeet
    rejectIf (movement.remainingFeet + movementGainedFeet > maxU16) .arithmeticOverflow
    return (.dashed movementGainedFeet, some (movement.remainingFeet + movementGainedFeet))
  | .disengage => .ok (.disengagedUntilTurnEnd, none)
  | .dodge => .ok (.dodgingUntilNextTurn (!effects.speedIsZero), none)
  | .help targetId .. => .ok (.helpGranted targetId, none)
  | .hide _ => .ok (.hideCheckRequested, none)
  | .ready trigger _ => .ok (.readied trigger, none)
  | .search => .ok (.searchCheckRequested, none)
  | .useObject item .. => .ok (.objectUsed item, none)
  -- the class features are turned away before anything is spent
  | .secondWind _ | .actionSurge _ => .error (.invalidIntent "class feature uses its dedicated transition")

/-- Spends a validated core action and applies its turn-local part. -/
def applyCoreAction (economy : ActionEconomy) (movement : MovementState) (conditions : ConditionSet)
    (context : ActionContext) : RulesMatrixResult (CoreActionEffect × ActionEconomy × MovementState) := do
  let availability ← actionAvailability economy conditions context
  rejectIf (context.capability = .secondWind ∨ context.capability = .actionSurge)
    (.invalidIntent "class feature uses its dedicated transition")
  movement.validate
  let effects ← conditionEffects conditions .abilityCheck
  let nextEconomy ← spendAction economy availability
  let (effect, dashed) ← coreActionEffect movement effects context
  let (nextEconomy, nextMovement) := match dashed with
    | some remainingFeet =>
      ({ nextEconomy with movementRemainingFeet := remainingFeet }, { movement with remainingFeet })
    | none => (nextEconomy, movement)
  nextMovement.validate
  return (effect, nextEconomy, nextMovement)

/-! ## The turn -/

structure RuntimeTurnState where
  schemaVersion : Nat
  actorId : String
  round : Nat
  active : Bool
  actionEconomy : ActionEconomy
  movement : MovementState
  conditions : ConditionSet
  deriving DecidableEq

/-- Largest value of a 32-bit counter. -/
def maxRound : Nat := 4294967295

namespace RuntimeTurnState

def validate (s : RuntimeTurnState) : RulesMatrixResult Unit := do
  rejectIf (s.schemaVersion ≠ rulesMatrixSchemaVersion ∨ s.round = 0)
    (.invalidState "runtime turn schema or round is invalid")
  requireId s.actorId "turn actor ID is invalid"
  s.conditions.validate
  s.movement.validate
  rejectIf (s.movement.remainingFeet ≠ s.actionEconomy.movementRemainingFeet)
    (.invalidState "turn movement views disagree or exceed the Dash profile")

def new (actorId : String) (round speedFeet positionFeet : Nat) (conditions : ConditionSet) :
    RulesMatrixResult RuntimeTurnState := do
  requireId actorId "turn actor ID is invalid"
  rejectIf (round = 0) (.invalidState "combat round must be positive")
  conditions.validate
  let movement ← MovementState.new speedFeet positionFeet
  let result := ⟨rulesMatrixSchemaVersion, actorId, round, true, .new speedFeet, movement, conditions⟩
  result.validate
  return result

/-- The action economy takes over what the movement state says. -/
def synchronizeMovement (s : RuntimeTurnState) : RuntimeTurnState :=
  { s with actionEconomy := { s.actionEconomy with movementRemainingFeet := s.movement.remainingFeet } }

def beginNextTurn (s : RuntimeTurnState) (round : Nat) (resources : RuntimeResources) :
    RulesMatrixResult (DurationResolution × RuntimeTurnState) := do
  s.validate
  rejectIf (s.active = true ∨ round < s.round ∨ round > min (s.round + 1) maxRound)
    (.invalidIntent "next turn round or active state is invalid")
  resources.validate
  let (duration, conditions) ← (processDurations s.conditions (.turnBoundary s.actorId .start)).mapError Prod.fst
  let economy ← grantSupportedBonusAction resources (.new s.movement.baseSpeedFeet)
  let next := { s with conditions, round, active := true, actionEconomy := economy, movement := s.movement.reset }
  next.validate
  return (duration, next)

def endTurn (s : RuntimeTurnState) : RulesMatrixResult (DurationResolution × RuntimeTurnState) := do
  s.validate
  rejectIf (s.active = false) (.invalidIntent "turn has already ended")
  let (duration, conditions) ← (processDurations s.conditions (.turnBoundary s.actorId .end)).mapError Prod.fst
  let next := { s with conditions, active := false }
  next.validate
  return (duration, next)

/-! ### The invariant -/

structure Valid (s : RuntimeTurnState) : Prop where
  schema : s.schemaVersion = rulesMatrixSchemaVersion
  round_pos : s.round ≠ 0
  actor : isValidOpaqueId s.actorId = true
  conditions : s.conditions.Valid
  movement : s.movement.Valid
  views : s.movement.remainingFeet = s.actionEconomy.movementRemainingFeet

variable {s : RuntimeTurnState}

theorem validate_eq_ok : s.validate = .ok () ↔ s.Valid := by
  simp only [validate, seq_eq_ok, rejectIf_eq_ok, requireId_eq_ok, ConditionSet.validate_eq_ok,
    MovementState.validate_eq_ok, not_or, not_not]
  exact ⟨fun ⟨⟨h₁, h₂⟩, h₃, h₄, h₅, h₆⟩ => ⟨h₁, h₂, h₃, h₄, h₅, h₆⟩,
    fun h => ⟨⟨h.schema, h.round_pos⟩, h.actor, h.conditions, h.movement, h.views⟩⟩

/-- **A valid turn that goes on can be ended.** -/
theorem Valid.endTurn (hv : s.Valid) (hactive : s.active = true) :
    ∃ duration s', s.endTurn = .ok (duration, s') ∧ s'.Valid := by
  obtain ⟨duration, hticked⟩ := processDurations_eq_ok hv.conditions (.turnBoundary s.actorId .end) hv.actor
  have hnext : Valid { s with conditions := s.conditions.ticked (.turnBoundary s.actorId .end), active := false } :=
    ⟨hv.schema, hv.round_pos, hv.actor, hv.conditions.ticked _, hv.movement, hv.views⟩
  refine ⟨duration, _, ?_, hnext⟩
  have hgoing : ¬ s.active = false := by
    rw [hactive]
    decide
  unfold RuntimeTurnState.endTurn
  rw [validate_eq_ok.mpr hv, ok_bind, rejectIf_of_not hgoing, ok_bind, hticked]
  show (({ s with conditions := _, active := false } : RuntimeTurnState).validate >>= fun _ => _) = _
  rw [validate_eq_ok.mpr hnext]
  rfl

end RuntimeTurnState

/-! ## What happens in a turn -/

/-- An operation on a turn. Moving and standing up act on the movement and the conditions alone; `synchronized` tells
    whether the caller then lets the action economy take the movement over. -/
inductive TurnEvent where
  | moveTo (destinationFeet : Nat) (context : MovementContext) (synchronized : Bool)
  | standFromProne (synchronized : Bool)
  | coreAction (context : ActionContext)
  | beginNextTurn (round : Nat) (resources : RuntimeResources)
  | endTurn

namespace RuntimeTurnState

/-- The turn, synchronized by a caller that does so. -/
def synchronizedBy (s : RuntimeTurnState) (synchronized : Bool) : RuntimeTurnState :=
  if synchronized then s.synchronizeMovement else s

def perform (s : RuntimeTurnState) : TurnEvent → RulesMatrixResult RuntimeTurnState
  | .moveTo destinationFeet context synchronized => do
    let (_, movement) ← Rules.moveTo s.movement destinationFeet context s.conditions
    return { s with movement }.synchronizedBy synchronized
  | .standFromProne synchronized => do
    let (_, movement, conditions) ← Rules.standFromProne s.movement s.conditions
    return { s with movement, conditions }.synchronizedBy synchronized
  | .coreAction context => do
    let (_, actionEconomy, movement) ← applyCoreAction s.actionEconomy s.movement s.conditions context
    return { s with actionEconomy, movement }
  | .beginNextTurn round resources => do
    let (_, next) ← s.beginNextTurn round resources
    return next
  | .endTurn => do
    let (_, next) ← s.endTurn
    return next

/-- **The condition under which an operation keeps the turn valid**: movement that was spent is synchronized, and
    nobody stands up at an odd multiple of five feet. -/
def Keeps (s : RuntimeTurnState) : TurnEvent → Prop
  | .moveTo destinationFeet _ synchronized => synchronized = true ∨ s.movement.positionFeet = destinationFeet
  | .standFromProne synchronized => synchronized = true ∧ s.movement.baseSpeedFeet % 10 = 0
  | _ => True

/-- The movement that an operation costs. -/
def cost (s : RuntimeTurnState) : TurnEvent → Nat
  | .moveTo destinationFeet context _ => s.movement.distance destinationFeet * context.multiplier
  | .standFromProne _ => s.movement.baseSpeedFeet / 2
  | _ => 0

variable {s : RuntimeTurnState} {e : TurnEvent} {m m' : MovementState} {conditions : ConditionSet}

theorem moveTo_eq_ok {destinationFeet c : Nat} {context : MovementContext}
    (h : Rules.moveTo m destinationFeet context conditions = .ok (c, m')) :
    m.Valid ∧ destinationFeet % 5 = 0 ∧ c = m.distance destinationFeet * context.multiplier ∧ c ≤ m.remainingFeet ∧
      m' = { m with remainingFeet := m.remainingFeet - c, positionFeet := destinationFeet } := by
  obtain ⟨_, hvalid, h⟩ := bind_eq_ok.mp h
  obtain ⟨_, hsteps, h⟩ := bind_eq_ok.mp h
  obtain ⟨effects, -, h⟩ := bind_eq_ok.mp h
  obtain ⟨_, -, h⟩ := bind_eq_ok.mp h
  obtain ⟨_, -, h⟩ := bind_eq_ok.mp h
  obtain ⟨_, hle, h⟩ := bind_eq_ok.mp h
  obtain ⟨rfl, rfl⟩ := Prod.mk.inj (Except.ok.inj h)
  exact ⟨MovementState.validate_eq_ok.mp hvalid, not_not.mp (rejectIf_eq_ok.mp hsteps), rfl,
    Nat.le_of_not_lt (rejectIf_eq_ok.mp hle), rfl⟩

theorem standFromProne_eq_ok {conditions' : ConditionSet} {c : Nat}
    (h : Rules.standFromProne m conditions = .ok (c, m', conditions')) :
    m.Valid ∧ conditions'.Valid ∧ m.baseSpeedFeet / 2 ≤ m.remainingFeet ∧
      m' = { m with remainingFeet := m.remainingFeet - m.baseSpeedFeet / 2 } := by
  obtain ⟨_, hvalid, h⟩ := bind_eq_ok.mp h
  obtain ⟨_, hconditions, h⟩ := bind_eq_ok.mp h
  obtain ⟨_, -, h⟩ := bind_eq_ok.mp h
  obtain ⟨effects, -, h⟩ := bind_eq_ok.mp h
  obtain ⟨_, -, h⟩ := bind_eq_ok.mp h
  obtain ⟨_, hle, h⟩ := bind_eq_ok.mp h
  obtain ⟨-, heq⟩ := Prod.mk.inj (Except.ok.inj h)
  obtain ⟨rfl, rfl⟩ := Prod.mk.inj heq
  have hv := ConditionSet.validate_eq_ok.mp hconditions
  exact ⟨MovementState.validate_eq_ok.mp hvalid, hv.sublist List.filter_sublist,
    Nat.le_of_not_lt (rejectIf_eq_ok.mp hle), rfl⟩

variable {next s' : RuntimeTurnState} {duration : DurationResolution} {synchronized : Bool}

/-- A turn that begins is valid, and its movement is back at the speed. -/
theorem beginNextTurn_eq_ok {round : Nat} {resources : RuntimeResources}
    (h : s.beginNextTurn round resources = .ok (duration, next)) :
    s.Valid ∧ next.Valid ∧ next.movement = s.movement.reset := by
  unfold RuntimeTurnState.beginNextTurn at h
  obtain ⟨_, hvalid, h⟩ := bind_eq_ok.mp h
  obtain ⟨_, -, h⟩ := bind_eq_ok.mp h
  obtain ⟨_, -, h⟩ := bind_eq_ok.mp h
  obtain ⟨⟨_, conditions⟩, -, h⟩ := bind_eq_ok.mp h
  obtain ⟨economy, -, h⟩ := bind_eq_ok.mp h
  obtain ⟨_, hnext, h⟩ := bind_eq_ok.mp h
  obtain ⟨-, rfl⟩ := Prod.mk.inj (Except.ok.inj h)
  exact ⟨validate_eq_ok.mp hvalid, validate_eq_ok.mp hnext, rfl⟩

/-- A turn that ends is valid, and its movement stays what it was. -/
theorem endTurn_eq_ok
    (h : s.endTurn = .ok (duration, next)) : s.Valid ∧ next.Valid ∧ next.movement = s.movement := by
  unfold RuntimeTurnState.endTurn at h
  obtain ⟨_, hvalid, h⟩ := bind_eq_ok.mp h
  obtain ⟨_, -, h⟩ := bind_eq_ok.mp h
  obtain ⟨⟨_, conditions⟩, -, h⟩ := bind_eq_ok.mp h
  obtain ⟨_, hnext, h⟩ := bind_eq_ok.mp h
  obtain ⟨-, rfl⟩ := Prod.mk.inj (Except.ok.inj h)
  exact ⟨validate_eq_ok.mp hvalid, validate_eq_ok.mp hnext, rfl⟩

/-- A Dash brings the two views of the movement together; any other core action leaves both alone. -/
theorem applyCoreAction_eq_ok {economy economy' : ActionEconomy}
    {context : ActionContext} {effect : CoreActionEffect}
    (h : applyCoreAction economy m conditions context = .ok (effect, economy', m')) :
    m'.Valid ∧ (m' = m ∧ economy'.movementRemainingFeet = economy.movementRemainingFeet ∨
      economy'.movementRemainingFeet = m'.remainingFeet ∧ m.remainingFeet ≤ m'.remainingFeet ∧
        m' = { m with remainingFeet := m'.remainingFeet }) := by
  unfold applyCoreAction at h
  obtain ⟨availability, -, h⟩ := bind_eq_ok.mp h
  obtain ⟨_, -, h⟩ := bind_eq_ok.mp h
  obtain ⟨_, -, h⟩ := bind_eq_ok.mp h
  obtain ⟨effects, -, h⟩ := bind_eq_ok.mp h
  obtain ⟨spent, hspent, h⟩ := bind_eq_ok.mp h
  obtain ⟨⟨effect', dashed⟩, heffect, h⟩ := bind_eq_ok.mp h
  have hfeet : spent.movementRemainingFeet = economy.movementRemainingFeet := by
    unfold spendAction at hspent
    obtain ⟨_, -, hspent⟩ := bind_eq_ok.mp hspent
    cases hr : availability.resource with
    | none =>
      rw [hr] at hspent
      rw [Except.ok.inj hspent]
    | some resource =>
      rw [hr] at hspent
      obtain ⟨_, -, hdrawn⟩ := bind_eq_ok.mp (mapError_eq_ok.mp hspent)
      obtain rfl := Except.ok.inj hdrawn
      cases resource <;> rfl
  dsimp only at h
  cases dashed with
  | none =>
    obtain ⟨_, hvalid, h⟩ := bind_eq_ok.mp h
    obtain ⟨-, heq⟩ := Prod.mk.inj (Except.ok.inj h)
    obtain ⟨rfl, rfl⟩ := Prod.mk.inj heq
    exact ⟨MovementState.validate_eq_ok.mp hvalid, .inl ⟨rfl, hfeet⟩⟩
  | some remainingFeet =>
    obtain ⟨_, hvalid, h⟩ := bind_eq_ok.mp h
    obtain ⟨-, heq⟩ := Prod.mk.inj (Except.ok.inj h)
    obtain ⟨rfl, rfl⟩ := Prod.mk.inj heq
    refine ⟨MovementState.validate_eq_ok.mp hvalid, .inr ⟨rfl, ?_, rfl⟩⟩
    -- only a Dash gains movement
    cases context with
    | dash =>
      obtain ⟨_, -, hdash⟩ := bind_eq_ok.mp heffect
      obtain ⟨-, hgained⟩ := Prod.mk.inj (Except.ok.inj hdash)
      rw [← Option.some.inj hgained]
      exact Nat.le_add_right _ _
    | _ => cases heffect

/-- Whether the two views of the movement agree is all that synchronizing changes. -/
theorem synchronizedBy_valid
    (hs : s.schemaVersion = rulesMatrixSchemaVersion ∧ s.round ≠ 0 ∧ isValidOpaqueId s.actorId = true ∧
      s.conditions.Valid) :
    (s.synchronizedBy synchronized).Valid ↔
      s.movement.Valid ∧ (synchronized = true ∨ s.movement.remainingFeet = s.actionEconomy.movementRemainingFeet) := by
  unfold synchronizedBy
  cases synchronized with
  | true => exact ⟨fun h => ⟨h.movement, .inl rfl⟩, fun h => ⟨hs.1, hs.2.1, hs.2.2.1, hs.2.2.2, h.1, rfl⟩⟩
  | false =>
    refine ⟨fun h => ⟨h.movement, .inr h.views⟩, fun h => ⟨hs.1, hs.2.1, hs.2.2.1, hs.2.2.2, h.1, ?_⟩⟩
    exact h.2.resolve_left Bool.false_ne_true

/-- **An operation on a valid turn keeps it valid exactly under its condition.** -/
theorem perform_valid_iff (hv : s.Valid) (h : s.perform e = .ok s') :
    s'.Valid ↔ s.Keeps e := by
  cases e with
  | moveTo destinationFeet context synchronized =>
    obtain ⟨⟨c, movement⟩, hmove, heq⟩ := bind_eq_ok.mp h
    obtain rfl := Except.ok.inj heq
    obtain ⟨hm, hsteps, hc, hle, rfl⟩ := moveTo_eq_ok hmove
    refine (synchronizedBy_valid ?fixed).trans ?_
    case fixed => exact ⟨hv.schema, hv.round_pos, hv.actor, hv.conditions⟩
    have hviews := hv.views
    have hfree : c = 0 ↔ s.movement.positionFeet = destinationFeet := by
      rw [hc, Nat.mul_eq_zero, MovementState.distance_eq_zero]
      exact or_iff_left context.multiplier_ne_zero
    have hvalid : MovementState.Valid
        { s.movement with remainingFeet := s.movement.remainingFeet - c, positionFeet := destinationFeet } := by
      have hcost : c % 5 = 0 := by
        rw [hc, Nat.mul_mod, MovementState.distance_steps hm.position_steps hsteps, Nat.zero_mul]
      have hremaining := hm.remaining_steps
      refine ⟨hm.speed_pos, hm.speed_steps, ?_, hsteps, (Nat.sub_le _ _).trans hm.remaining_le⟩
      show (s.movement.remainingFeet - c) % 5 = 0
      omega
    have hsame : s.movement.remainingFeet - c = s.actionEconomy.movementRemainingFeet ↔ c = 0 := by omega
    rw [and_iff_right hvalid]
    exact or_congr_right (hsame.trans hfree)
  | standFromProne synchronized =>
    obtain ⟨⟨c, movement, conditions⟩, hstand, heq⟩ := bind_eq_ok.mp h
    obtain rfl := Except.ok.inj heq
    obtain ⟨hm, hconditions, hle, rfl⟩ := standFromProne_eq_ok hstand
    refine (synchronizedBy_valid ?fixed).trans ?_
    case fixed => exact ⟨hv.schema, hv.round_pos, hv.actor, hconditions⟩
    have hpos := hm.speed_pos
    have hspeed := hm.speed_steps
    have hremaining := hm.remaining_steps
    have hviews := hv.views
    -- standing up is never free, for the speed is at least five
    have hsame : ¬ s.movement.remainingFeet - s.movement.baseSpeedFeet / 2 =
        s.actionEconomy.movementRemainingFeet := by omega
    constructor
    · rintro ⟨hvalid, hsync⟩
      have hsteps : (s.movement.remainingFeet - s.movement.baseSpeedFeet / 2) % 5 = 0 := hvalid.remaining_steps
      exact ⟨hsync.resolve_right hsame, by omega⟩
    · rintro ⟨hsync, hten⟩
      refine ⟨⟨hm.speed_pos, hm.speed_steps, ?_, hm.position_steps, (Nat.sub_le _ _).trans hm.remaining_le⟩, .inl hsync⟩
      show (s.movement.remainingFeet - s.movement.baseSpeedFeet / 2) % 5 = 0
      omega
  | coreAction context =>
    obtain ⟨⟨effect, economy, movement⟩, hact, heq⟩ := bind_eq_ok.mp h
    obtain rfl := Except.ok.inj heq
    obtain ⟨hm, hviews⟩ := applyCoreAction_eq_ok hact
    refine ⟨fun _ => trivial, fun _ => ⟨hv.schema, hv.round_pos, hv.actor, hv.conditions, hm, ?_⟩⟩
    rcases hviews with ⟨rfl, hfeet⟩ | ⟨hfeet, -⟩
    · exact hv.views.trans hfeet.symm
    · exact hfeet.symm
  | beginNextTurn round resources =>
    obtain ⟨⟨duration, next⟩, hbegin, heq⟩ := bind_eq_ok.mp h
    obtain rfl := Except.ok.inj heq
    obtain ⟨-, hnext, -⟩ := beginNextTurn_eq_ok hbegin
    exact ⟨fun _ => trivial, fun _ => hnext⟩
  | endTurn =>
    obtain ⟨⟨duration, next⟩, hend, heq⟩ := bind_eq_ok.mp h
    obtain rfl := Except.ok.inj heq
    obtain ⟨-, hnext, -⟩ := endTurn_eq_ok hend
    exact ⟨fun _ => trivial, fun _ => hnext⟩

/-! ### Movement on account -/

/-- A turn with the movement spent in it so far, and the movement allowed for it. -/
structure Metered where
  turn : RuntimeTurnState
  spent : Nat
  allowance : Nat

/-- The allowance of a turn is the speed, once more for every Dash; a new turn starts a new account. -/
def Metered.Step (m : Metered) (e : TurnEvent) (m' : Metered) : Prop :=
  m.turn.perform e = .ok m'.turn ∧
    match e with
    | .beginNextTurn .. => m'.spent = 0 ∧ m'.allowance = m.turn.movement.baseSpeedFeet
    | .coreAction _ => m'.spent = m.spent ∧
        m'.allowance = m.allowance + (m'.turn.movement.remainingFeet - m.turn.movement.remainingFeet)
    | e => m'.spent = m.spent + m.turn.cost e ∧ m'.allowance = m.allowance

/-- An operation has one outcome. -/
theorem Metered.Step.unique {m m₁ m₂ : Metered} (h₁ : m.Step e m₁) (h₂ : m.Step e m₂) : m₁ = m₂ := by
  obtain ⟨turn₁, spent₁, allowance₁⟩ := m₁
  obtain ⟨turn₂, spent₂, allowance₂⟩ := m₂
  obtain ⟨h₁, hmeter₁⟩ := h₁
  obtain ⟨h₂, hmeter₂⟩ := h₂
  obtain rfl : turn₁ = turn₂ := Except.ok.inj (h₁.symm.trans h₂)
  cases e <;>
  · obtain ⟨hspent₁, hallowed₁⟩ := hmeter₁
    obtain ⟨hspent₂, hallowed₂⟩ := hmeter₂
    exact congrArg₂ (Metered.mk turn₁) (hspent₁.trans hspent₂.symm) (hallowed₁.trans hallowed₂.symm)

/-- What was spent and what remains are the allowance. -/
def Metered.Balanced (m : Metered) : Prop := m.spent + m.turn.movement.remainingFeet = m.allowance

theorem synchronizedBy_movement :
    (s.synchronizedBy synchronized).movement = s.movement := by
  unfold synchronizedBy
  split <;> rfl

theorem Metered.Step.balanced {m m' : Metered} (hstep : m.Step e m') (hm : m.Balanced) :
    m'.Balanced := by
  obtain ⟨h, hmeter⟩ := hstep
  unfold Metered.Balanced at hm ⊢
  cases e with
  | moveTo destinationFeet context synchronized =>
    obtain ⟨hspent, hallowed⟩ := hmeter
    obtain ⟨⟨c, movement⟩, hmove, heq⟩ := bind_eq_ok.mp h
    obtain ⟨-, -, hc, hle, rfl⟩ := moveTo_eq_ok hmove
    have hcost : m.turn.cost (.moveTo destinationFeet context synchronized) = c := hc.symm
    rw [← Except.ok.inj heq, synchronizedBy_movement, hspent, hallowed, hcost]
    dsimp only
    omega
  | standFromProne synchronized =>
    obtain ⟨hspent, hallowed⟩ := hmeter
    obtain ⟨⟨c, movement, conditions⟩, hstand, heq⟩ := bind_eq_ok.mp h
    obtain ⟨-, -, hle, rfl⟩ := standFromProne_eq_ok hstand
    have hcost : m.turn.cost (.standFromProne synchronized) = m.turn.movement.baseSpeedFeet / 2 := rfl
    rw [← Except.ok.inj heq, synchronizedBy_movement, hspent, hallowed, hcost]
    dsimp only
    omega
  | coreAction context =>
    obtain ⟨hspent, hallowed⟩ := hmeter
    obtain ⟨⟨effect, economy, movement⟩, hact, heq⟩ := bind_eq_ok.mp h
    obtain ⟨-, hviews⟩ := applyCoreAction_eq_ok hact
    have hgrown : m.turn.movement.remainingFeet ≤ m'.turn.movement.remainingFeet := by
      rw [← Except.ok.inj heq]
      rcases hviews with ⟨rfl, -⟩ | ⟨-, hle, -⟩
      · exact Nat.le_refl _
      · exact hle
    omega
  | beginNextTurn round resources =>
    obtain ⟨hspent, hallowed⟩ := hmeter
    obtain ⟨⟨duration, next⟩, hbegin, heq⟩ := bind_eq_ok.mp h
    obtain ⟨-, -, hreset⟩ := beginNextTurn_eq_ok hbegin
    rw [← Except.ok.inj heq, hreset, hspent, hallowed]
    exact Nat.zero_add _
  | endTurn =>
    obtain ⟨hspent, hallowed⟩ := hmeter
    obtain ⟨⟨duration, next⟩, hend, heq⟩ := bind_eq_ok.mp h
    obtain ⟨-, -, hsame⟩ := endTurn_eq_ok hend
    have hcost : m.turn.cost .endTurn = 0 := rfl
    rw [← Except.ok.inj heq, hsame, hspent, hallowed, hcost]
    exact hm

/-! ### Whole turns -/

/-- **The turn is sound**: it passes its check, spends no more movement than it is allowed, and can be ended. -/
def Metered.Sound (m : Metered) : Prop :=
  m.turn.validate = .ok () ∧ m.spent ≤ m.allowance ∧
    (m.turn.active = true → ∃ out, m.turn.endTurn = .ok out)

/-- **Turns stay sound exactly when every operation meets its condition.** From a valid turn, in every run of operations
    that went through, every state reached is sound if and only if all movement that was spent is synchronized and
    nobody stands up at an odd multiple of five feet. -/
theorem turns_stay_sound_iff {m m' : Metered} {es : List TurnEvent} (hv : m.turn.validate = .ok ()) (hm : m.Balanced)
    (hrun : Run Metered.Step m es m') :
    (∀ before t after, es = before ++ after → Run Metered.Step m before t → t.Sound) ↔
      ∀ before t e after, es = before ++ e :: after → Run Metered.Step m before t → t.turn.Keeps e := by
  constructor
  · rintro hsound before t e after rfl ht
    obtain ⟨t', ht', hrest⟩ := hrun.of_append
    have hunique : ∀ s a s₁ s₂, Metered.Step s a s₁ → Metered.Step s a s₂ → s₁ = s₂ :=
      fun _ _ _ _ => Metered.Step.unique
    obtain rfl := Run.unique hunique ht ht'
    cases hrest with
    | cons hstep _ =>
      have hbefore := (hsound before t (e :: after) rfl ht).1
      have hafter := (hsound (before ++ [e]) _ after (List.append_cons ..) (ht.snoc hstep)).1
      exact (perform_valid_iff (validate_eq_ok.mp hbefore) hstep.1).mp (validate_eq_ok.mp hafter)
  · intro hkeeps before t after hes ht
    have hvalid : t.turn.Valid := by
      -- backwards over the operations so far
      induction before using List.reverseRecOn generalizing t after with
      | nil =>
        cases ht with
        | nil => exact validate_eq_ok.mp hv
      | append_singleton before e ih =>
        obtain ⟨t₀, ht₀, hstep⟩ := ht.of_snoc
        have hsplit : es = before ++ e :: after := by rw [hes, List.append_assoc, List.singleton_append]
        exact (perform_valid_iff (ih t₀ (e :: after) hsplit ht₀) hstep.1).mpr (hkeeps before t₀ e after hsplit ht₀)
    have hbalanced : t.Balanced := ht.invariant (fun _ _ _ hs hstep => hstep.balanced hs) hm
    refine ⟨validate_eq_ok.mpr hvalid, ?_, fun hactive => ?_⟩
    · unfold Metered.Balanced at hbalanced
      omega
    · obtain ⟨duration, s', hend, -⟩ := hvalid.endTurn hactive
      exact ⟨_, hend⟩

/-- Every operation starts from a movement that passes its check. -/
theorem movement_valid_of_perform (h : s.perform e = .ok s') :
    s.movement.Valid := by
  cases e with
  | moveTo destinationFeet context synchronized =>
    obtain ⟨⟨c, movement⟩, hmove, -⟩ := bind_eq_ok.mp h
    exact (moveTo_eq_ok hmove).1
  | standFromProne synchronized =>
    obtain ⟨⟨c, movement, conditions⟩, hstand, -⟩ := bind_eq_ok.mp h
    exact (standFromProne_eq_ok hstand).1
  | coreAction context =>
    obtain ⟨_, hact, -⟩ := bind_eq_ok.mp h
    obtain ⟨_, -, hact⟩ := bind_eq_ok.mp hact
    obtain ⟨_, -, hact⟩ := bind_eq_ok.mp hact
    obtain ⟨_, hvalid, -⟩ := bind_eq_ok.mp hact
    exact MovementState.validate_eq_ok.mp hvalid
  | beginNextTurn round resources =>
    obtain ⟨⟨duration, next⟩, hbegin, -⟩ := bind_eq_ok.mp h
    exact (beginNextTurn_eq_ok hbegin).1.movement
  | endTurn =>
    obtain ⟨⟨duration, next⟩, hend, -⟩ := bind_eq_ok.mp h
    exact (endTurn_eq_ok hend).1.movement

/-- A creature of the given speed, tripped in the first round. -/
def tripped (speedFeet : Nat) : RuntimeTurnState where
  schemaVersion := rulesMatrixSchemaVersion
  actorId := "dwarf-1"
  round := 1
  active := true
  actionEconomy := .new speedFeet
  movement := ⟨speedFeet, speedFeet, 0⟩
  conditions := ⟨rulesMatrixSchemaVersion, [⟨.prone, .mechanic "tripped", .permanent⟩]⟩

/-- **A creature of speed twenty-five that stands up has a turn that nothing can go on with**, not even its end. -/
theorem standing_up_blocks_turn :
    (tripped 25).validate = .ok () ∧ ∃ s', (tripped 25).perform (.standFromProne true) = .ok s' ∧
      s'.validate ≠ .ok () ∧ s'.active = true ∧ ∀ e s'', s'.perform e ≠ .ok s'' := by
  refine ⟨rfl, _, rfl, by decide, rfl, fun e s'' h => ?_⟩
  have hsteps := (movement_valid_of_perform h).remaining_steps
  exact absurd hsteps (by decide)

/-- At speed thirty the turn of whoever stands up stays sound. -/
theorem standing_up_at_thirty :
    ∃ m', Run Metered.Step ⟨tripped 30, 0, 30⟩ [.standFromProne true] m' ∧ m'.Sound := by
  obtain ⟨stood, hstood⟩ : ∃ s', (tripped 30).perform (.standFromProne true) = .ok s' := ⟨_, rfl⟩
  have hstep : Metered.Step ⟨tripped 30, 0, 30⟩ (.standFromProne true) ⟨stood, 15, 30⟩ := ⟨hstood, rfl, rfl⟩
  have hrun := Run.cons hstep (.nil _)
  have hiff := turns_stay_sound_iff (m := ⟨tripped 30, 0, 30⟩) rfl rfl hrun
  refine ⟨_, hrun, hiff.mpr ?_ _ _ [] rfl hrun⟩
  intro before t e after hes ht
  cases before with
  | nil =>
    obtain ⟨rfl, -⟩ := List.cons.inj hes
    cases ht with
    | nil => exact ⟨rfl, rfl⟩
  | cons b before => exact absurd (List.cons.inj hes).2 (by simp)

end RuntimeTurnState

end ManchesterArcana.Rules
