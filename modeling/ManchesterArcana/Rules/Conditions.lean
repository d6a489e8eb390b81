import Mathlib.Data.List.Sort
import Mathlib.Data.List.Destutter
import ManchesterArcana.Rules.Basic

/-!
# `Rules.Conditions` — conditions, their effects, and which actions they leave available

A creature carries a bounded set of conditions, each with its source and duration. The set determines how
rolls are made, whether the creature may act, and — with the action economy and a description of the
intended action — the list of reasons why an action is unavailable.
-/

namespace ManchesterArcana.Rules

open Effect

/-! ## Conditions -/

inductive TurnBoundary where
  | start
  | «end»
  deriving DecidableEq

inductive EffectDuration where
  | permanent
  | rounds (remaining : Nat) (boundary : TurnBoundary) (actorId : String)
  | untilDamagedOrAwakened (remainingRounds : Nat) (actorId : String)
  deriving DecidableEq

inductive ConditionSource where
  | spell (spell : SpellId) (casterId : String)
  | mechanic (mechanicId : String)
  deriving DecidableEq

def ConditionSource.isSleepSpell : ConditionSource → Bool
  | .spell .sleep _ => true
  | _ => false

structure ActiveCondition where
  condition : ConditionId
  source : ConditionSource
  duration : EffectDuration
  deriving DecidableEq

namespace ActiveCondition

def validate (c : ActiveCondition) : RulesMatrixResult Unit := do
  match c.source with
  | .spell _ casterId => requireId casterId "condition caster ID is invalid"
  | .mechanic mechanicId => requireId mechanicId "condition mechanic ID is invalid"
  match c.duration with
  | .permanent => return ()
  | .rounds remaining _ actorId =>
    rejectIf (remaining = 0 ∨ remaining > 600)
      (.invalidState "condition duration is outside one round to one hour")
    requireId actorId "condition duration actor ID is invalid"
  | .untilDamagedOrAwakened remainingRounds actorId =>
    rejectIf (remainingRounds = 0 ∨ remainingRounds > 10)
      (.invalidState "sleep duration is outside one to ten rounds")
    requireId actorId "sleep duration actor ID is invalid"
    rejectIf (c.condition ≠ .unconscious ∨ c.source.isSleepSpell = false)
      (.invalidState "damage-or-awakening duration is reserved for sleep")

/-- The text under which the set recognises a repeated source. -/
def sourceText (c : ActiveCondition) : String :=
  match c.source with
  | .spell spell casterId => "spell:" ++ spell.debugName ++ ":" ++ casterId
  | .mechanic mechanicId => "mechanic:" ++ mechanicId

end ActiveCondition

structure ConditionSet where
  schemaVersion : Nat
  active : List ActiveCondition
  deriving DecidableEq

def maxActiveConditions : Nat := 32

namespace ConditionSet

def empty : ConditionSet := ⟨rulesMatrixSchemaVersion, []⟩

/-- Validate conditions in order, given the identities of the ones before them. -/
def validateFrom : List (ConditionId × String) → List ActiveCondition → RulesMatrixResult Unit
  | _, [] => .ok ()
  | seen, c :: cs => do
    c.validate
    rejectIf ((c.condition, c.sourceText) ∈ seen) (.invalidState "duplicate condition source")
    validateFrom ((c.condition, c.sourceText) :: seen) cs

def validate (s : ConditionSet) : RulesMatrixResult Unit := do
  rejectIf (s.schemaVersion ≠ rulesMatrixSchemaVersion ∨ s.active.length > maxActiveConditions)
    (.invalidState "condition set schema or size is invalid")
  validateFrom [] s.active

def contains (s : ConditionSet) (condition : ConditionId) : Bool :=
  s.active.any (·.condition = condition)

@[simp] theorem empty_validate : empty.validate = .ok () := rfl

end ConditionSet

/-! ## Effects on rolls and actions -/

inductive RollSituation where
  | abilityCheck
  | savingThrow (ability : Ability)
  | ownAttack
  | incomingAttack (attackerDistanceFeet : Nat)
  deriving DecidableEq

structure ConditionEffects where
  rollContext : RollContext := .normal
  automaticSaveFailure : Bool := false
  speedIsZero : Bool := false
  actionsBlocked : Bool := false
  reactionsBlocked : Bool := false
  incomingHitIsCritical : Bool := false
  deriving DecidableEq

namespace ConditionEffects

def addAdvantage (e : ConditionEffects) : ConditionEffects :=
  { e with rollContext := e.rollContext.combine .withAdvantage }

def addDisadvantage (e : ConditionEffects) : ConditionEffects :=
  { e with rollContext := e.rollContext.combine .withDisadvantage }

/-- The contribution of one condition in a situation. -/
def add (situation : RollSituation) (e : ConditionEffects) : ConditionId → ConditionEffects
  | .prone =>
    match situation with
    | .ownAttack => e.addDisadvantage
    | .incomingAttack d => if d ≤ 5 then e.addAdvantage else e.addDisadvantage
    | _ => e
  | .restrained =>
    match situation with
    | .ownAttack => e.addDisadvantage
    | .incomingAttack _ => e.addAdvantage
    | .savingThrow .dexterity => e.addDisadvantage
    | _ => e
  | .grappled => { e with speedIsZero := true }
  | .incapacitated => { e with actionsBlocked := true, reactionsBlocked := true }
  | .unconscious =>
    let e := { e with actionsBlocked := true, reactionsBlocked := true, speedIsZero := true }
    match situation with
    | .savingThrow .strength | .savingThrow .dexterity => { e with automaticSaveFailure := true }
    | .incomingAttack d =>
      if d ≤ 5 then { e.addAdvantage with incomingHitIsCritical := true } else e.addAdvantage
    | _ => e
  | .poisoned =>
    match situation with
    | .abilityCheck | .ownAttack => e.addDisadvantage
    | _ => e

end ConditionEffects

def conditionEffects (conditions : ConditionSet) (situation : RollSituation) :
    RulesMatrixResult ConditionEffects := do
  conditions.validate
  let effects := conditions.active.foldl (fun e c => e.add situation c.condition) {}
  return if conditions.contains .restrained then { effects with speedIsZero := true } else effects

@[simp] theorem conditionEffects_empty (situation : RollSituation) :
    conditionEffects .empty situation = .ok {} := rfl

/-! ## Availability of actions -/

inductive ReadyTrigger where
  | creatureEntersReach
  | creatureEntersNormalRange
  | doorOpens
  deriving DecidableEq

inductive ActionContext where
  | attack (targetIsValid inRange : Bool)
  | castSpell (spell : SpellId) (targetIsValid prepared slotAvailable : Bool)
  | dash
  | disengage
  | dodge
  | help (targetId : String) (targetIsValid targetWithinFiveFeet : Bool)
  | hide (obscuredFromObservers : Bool)
  | ready (trigger : ReadyTrigger) (reactionAvailable : Bool)
  | search
  | useObject (item : EquipmentId) (itemIsCarried authoredUseAvailable : Bool)
  | secondWind (resourceAvailable : Bool)
  | actionSurge (resourceAvailable : Bool)
  deriving DecidableEq

namespace ActionContext

def capability : ActionContext → ActionCapability
  | attack .. => .attack
  | castSpell .. => .castSupportedSpell
  | dash => .dash
  | disengage => .disengage
  | dodge => .dodge
  | help .. => .help
  | hide _ => .hide
  | ready .. => .ready
  | search => .search
  | useObject .. => .useObject
  | secondWind _ => .secondWind
  | actionSurge _ => .actionSurge

/-- The part of the action economy that the action spends. -/
def resource : ActionContext → Option TurnResource
  | secondWind _ => some .bonusAction
  | actionSurge _ => none
  | castSpell .shield .. => some .reaction
  | _ => some .action

end ActionContext

inductive ActionBlocker where
  | incapacitated
  | actionSpent
  | bonusActionUnavailable
  | reactionUnavailable
  | invalidTarget
  | outOfRange
  | spellNotPrepared
  | spellSlotUnavailable
  | notObscured
  | noAuthoredObjectUse
  | resourceUnavailable
  deriving DecidableEq

structure ActionAvailability where
  capability : ActionCapability
  resource : Option TurnResource
  blockers : List ActionBlocker
  deriving DecidableEq

def ActionAvailability.isAvailable (a : ActionAvailability) : Bool := a.blockers.isEmpty

/-- `blocker`, when `c` holds. -/
def blockWhen (c : Prop) [Decidable c] (blocker : ActionBlocker) : List ActionBlocker :=
  if c then [blocker] else []

/-- The blockers that the economy and the conditions raise. -/
def economyBlockers (economy : ActionEconomy) (effects : ConditionEffects) (context : ActionContext) :
    List ActionBlocker :=
  blockWhen effects.actionsBlocked .incapacitated ++
    match context.resource with
    | some .action => blockWhen (economy.actionAvailable = false) .actionSpent
    | some .bonusAction => blockWhen (economy.bonusActionAvailable = false) .bonusActionUnavailable
    | some .reaction =>
      blockWhen (economy.reactionAvailable = false ∨ effects.reactionsBlocked) .reactionUnavailable
    | _ => []

/-- The blockers that the intended action itself raises. -/
def contextBlockers : ActionContext → RulesMatrixResult (List ActionBlocker)
  | .attack targetIsValid inRange =>
    return blockWhen (targetIsValid = false) .invalidTarget ++ blockWhen (inRange = false) .outOfRange
  | .castSpell spell targetIsValid prepared slotAvailable =>
    return blockWhen (targetIsValid = false) .invalidTarget ++
      blockWhen (spell.level = 1 ∧ prepared = false) .spellNotPrepared ++
      blockWhen (spell.level = 1 ∧ slotAvailable = false) .spellSlotUnavailable
  | .help targetId targetIsValid targetWithinFiveFeet => do
    requireId targetId "help target ID is invalid"
    return blockWhen (targetIsValid = false) .invalidTarget ++
      blockWhen (targetWithinFiveFeet = false) .outOfRange
  | .hide obscured => return blockWhen (obscured = false) .notObscured
  | .ready _ reactionAvailable => return blockWhen (reactionAvailable = false) .reactionUnavailable
  | .useObject _ itemIsCarried authoredUseAvailable =>
    return blockWhen (itemIsCarried = false) .invalidTarget ++
      blockWhen (authoredUseAvailable = false) .noAuthoredObjectUse
  | .secondWind resourceAvailable | .actionSurge resourceAvailable =>
    return blockWhen (resourceAvailable = false) .resourceUnavailable
  | .dash | .disengage | .dodge | .search => return []

def actionAvailability (economy : ActionEconomy) (conditions : ConditionSet) (context : ActionContext) :
    RulesMatrixResult ActionAvailability := do
  conditions.validate
  let effects ← conditionEffects conditions .abilityCheck
  let blockers ← contextBlockers context
  return {
    capability := context.capability
    resource := context.resource
    blockers := ((economyBlockers economy effects context ++ blockers).insertionSort
      (fun a b => a.ctorIdx ≤ b.ctorIdx)).destutter (· ≠ ·) }

@[simp] theorem blockWhen_eq_nil {c : Prop} [Decidable c] {b : ActionBlocker} :
    blockWhen c b = [] ↔ ¬ c := by
  unfold blockWhen
  split <;> simp_all

theorem destutter_isEmpty {α : Type} {r : α → α → Prop} [DecidableRel r] {l : List α} :
    (l.destutter r).isEmpty = l.isEmpty := by
  rw [Bool.eq_iff_iff, List.isEmpty_iff, List.isEmpty_iff, List.destutter_eq_nil]

/-- **An action is available when neither the economy nor the action itself raises a blocker.** Sorting and
    deduplicating the reasons does not matter for that. -/
theorem isAvailable_of_empty {economy : ActionEconomy} {context : ActionContext} {blockers : List ActionBlocker}
    (h : contextBlockers context = .ok blockers) :
    ∃ a, actionAvailability economy .empty context = .ok a ∧
      (a.isAvailable = true ↔ economyBlockers economy {} context = [] ∧ blockers = []) := by
  refine ⟨_, by simp only [actionAvailability, ConditionSet.empty_validate, conditionEffects_empty, h]; rfl, ?_⟩
  simp only [ActionAvailability.isAvailable, destutter_isEmpty, List.isEmpty_iff]
  rw [← List.length_eq_zero_iff, List.length_insertionSort, List.length_eq_zero_iff, List.append_eq_nil_iff]

end ManchesterArcana.Rules
