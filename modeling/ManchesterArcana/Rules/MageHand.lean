import ManchesterArcana.Rules.Conditions

/-!
# `Rules.MageHand` — the spectral hand and what its caster can do with it

A hand exists for at most ten rounds and within thirty feet of its caster. Controlling or dismissing it costs
the action; moving out of range or running out of rounds ends it.
-/

namespace ManchesterArcana.Rules

open Effect

structure MageHandState where
  schemaVersion : Nat
  handId : String
  casterId : String
  distanceFromCasterFeet : Nat
  remainingRounds : Nat
  deriving DecidableEq

namespace MageHandState

structure Valid (h : MageHandState) : Prop where
  schema : h.schemaVersion = rulesMatrixSchemaVersion
  range : h.distanceFromCasterFeet ≤ 30
  grid : 5 ∣ h.distanceFromCasterFeet
  rounds : 1 ≤ h.remainingRounds ∧ h.remainingRounds ≤ 10
  handId : isValidOpaqueId h.handId = true
  casterId : isValidOpaqueId h.casterId = true

def validate (h : MageHandState) : RulesMatrixResult Unit := do
  rejectIf (h.schemaVersion ≠ rulesMatrixSchemaVersion ∨ h.distanceFromCasterFeet > 30 ∨
      ¬ 5 ∣ h.distanceFromCasterFeet ∨ ¬ (1 ≤ h.remainingRounds ∧ h.remainingRounds ≤ 10))
    (.invalidState "mage hand schema, range, or duration is invalid")
  requireId h.handId "mage hand ID is invalid"
  requireId h.casterId "mage hand caster ID is invalid"

theorem validate_eq_ok {h : MageHandState} : h.validate = .ok () ↔ h.Valid := by
  simp only [validate, requireId, seq_eq_ok, rejectIf_eq_ok, not_or, not_not,
    Bool.not_eq_false, Nat.not_lt]
  constructor
  · rintro ⟨⟨hs, hr, hg, hd⟩, hi, hc⟩
    exact ⟨hs, hr, hg, hd, hi, hc⟩
  · intro hv
    exact ⟨⟨hv.schema, hv.range, hv.grid, hv.rounds⟩, hv.handId, hv.casterId⟩

end MageHandState

/-! ## Control -/

inductive MageHandOperation where
  | manipulateObject
  | openUnlockedDoorOrContainer
  | stowObject
  | retrieveObject
  | pourContents
  deriving DecidableEq

structure MageHandControlTarget where
  objectId : String
  handMovementFeet : Nat
  resultingDistanceFromCasterFeet : Nat
  objectWeightPounds : Nat
  isMagicItem : Bool
  operation : MageHandOperation
  deriving DecidableEq

inductive MageHandActionIntent where
  | control (target : MageHandControlTarget)
  | dismiss
  deriving DecidableEq

inductive MageHandActionEffect where
  | controlled (handId objectId : String) (operation : MageHandOperation)
      (previousDistanceFromCasterFeet handMovementFeet resultingDistanceFromCasterFeet : Nat)
  | dismissed (handId : String)
  deriving DecidableEq

structure MageHandActionResolution where
  effect : MageHandActionEffect
  resultingHand : Option MageHandState
  resultingActionEconomy : ActionEconomy
  deriving DecidableEq

/-- `a.abs_diff(b)` of unsigned distances. -/
def absDiff (a b : Nat) : Nat := (a - b) + (b - a)

/-- The limits on one control of the hand: movement, range, weight and kind of object. -/
def MageHandControlTarget.WithinLimits (target : MageHandControlTarget) (current : MageHandState) : Prop :=
  target.handMovementFeet ≤ 30 ∧ 5 ∣ target.handMovementFeet ∧
    target.resultingDistanceFromCasterFeet ≤ 30 ∧ 5 ∣ target.resultingDistanceFromCasterFeet ∧
    target.objectWeightPounds ≤ 10 ∧ target.isMagicItem = false ∧
    absDiff current.distanceFromCasterFeet target.resultingDistanceFromCasterFeet ≤ target.handMovementFeet

instance (target : MageHandControlTarget) (current : MageHandState) :
    Decidable (target.WithinLimits current) := by
  unfold MageHandControlTarget.WithinLimits; infer_instance

/-- What an intent does to the current hand. -/
def MageHandState.act (current : MageHandState) :
    MageHandActionIntent → RulesMatrixResult (MageHandActionEffect × Option MageHandState)
  | .control target => do
    requireId target.objectId "mage hand object ID is invalid"
    rejectIf (¬ target.WithinLimits current)
      (.invalidIntent "mage hand control exceeds its movement, range, weight, or object limits")
    let nextHand := { current with distanceFromCasterFeet := target.resultingDistanceFromCasterFeet }
    nextHand.validate
    return (.controlled nextHand.handId target.objectId target.operation current.distanceFromCasterFeet
      target.handMovementFeet target.resultingDistanceFromCasterFeet, some nextHand)
  | .dismiss => return (.dismissed current.handId, none)

def resolveMageHandAction (hand : Option MageHandState) (economy : ActionEconomy)
    (casterConditions : ConditionSet) (intent : MageHandActionIntent) :
    Mutating (Option MageHandState × ActionEconomy)
      (MageHandActionResolution × Option MageHandState × ActionEconomy) := do
  let before := (hand, economy)
  let current ← leaving before (okOr hand (.invalidIntent "no active mage hand is available"))
  leaving before current.validate
  leaving before casterConditions.validate
  let effects ← leaving before (conditionEffects casterConditions .abilityCheck)
  leaving before (rejectIf (effects.actionsBlocked)
    (.invalidIntent "current conditions prevent controlling mage hand"))
  let nextEconomy ← leaving before ((economy.spend .action).mapError .core)
  let (effect, resultingHand) ← leaving before (current.act intent)
  return ({ effect, resultingHand, resultingActionEconomy := nextEconomy }, resultingHand, nextEconomy)

/-! ## Duration and distance -/

/-- One round of the one-minute duration; `true` only when this transition ends the hand. -/
def advanceMageHandDuration (hand : Option MageHandState) :
    Mutating (Option MageHandState) (Bool × Option MageHandState) := do
  let next ← leaving hand (okOr hand (.invalidIntent "no active mage hand is available"))
  leaving hand next.validate
  if next.remainingRounds = 1 then return (true, none)
  let next := { next with remainingRounds := next.remainingRounds - 1 }
  leaving hand next.validate
  return (false, some next)

/-- A trusted distance update after the caster or the hand moved. -/
def reconcileMageHandDistance (hand : Option MageHandState) (distanceFromCasterFeet : Nat) :
    Mutating (Option MageHandState) (Bool × Option MageHandState) := do
  let next ← leaving hand (okOr hand (.invalidIntent "no active mage hand is available"))
  leaving hand next.validate
  leaving hand (rejectIf (¬ 5 ∣ distanceFromCasterFeet)
    (.invalidIntent "mage hand distance must use five-foot increments"))
  if distanceFromCasterFeet > 30 then return (true, none)
  let next := { next with distanceFromCasterFeet }
  leaving hand next.validate
  return (false, some next)

/-- **A valid hand ages by one round, or ends with its last.** -/
theorem advanceMageHandDuration_of_valid {hand : MageHandState} (hv : hand.Valid) :
    advanceMageHandDuration (some hand) =
      if hand.remainingRounds = 1 then .ok (true, none)
      else .ok (false, some { hand with remainingRounds := hand.remainingRounds - 1 }) := by
  have hok := MageHandState.validate_eq_ok.mpr hv
  have hrounds := hv.rounds
  simp only [advanceMageHandDuration, okOr_some, leaving_ok, ok_bind, leaving_of_eq_ok hok]
  by_cases h1 : hand.remainingRounds = 1
  · rw [if_pos h1, if_pos h1]; rfl
  · have hnext : ({ hand with remainingRounds := hand.remainingRounds - 1 } : MageHandState).Valid :=
      { hv with rounds := by show 1 ≤ hand.remainingRounds - 1 ∧ hand.remainingRounds - 1 ≤ 10; omega }
    rw [if_neg h1, if_neg h1]
    simp only [leaving_of_eq_ok (MageHandState.validate_eq_ok.mpr hnext), ok_bind, pure_eq]

/-- **A valid hand follows its caster up to thirty feet, and ends beyond.** -/
theorem reconcileMageHandDistance_of_valid {hand : MageHandState} (hv : hand.Valid) {d : Nat} (hd : 5 ∣ d) :
    reconcileMageHandDistance (some hand) d =
      if d > 30 then .ok (true, none)
      else .ok (false, some { hand with distanceFromCasterFeet := d }) := by
  have hok := MageHandState.validate_eq_ok.mpr hv
  have hgrid : rejectIf (¬ 5 ∣ d)
      (RulesMatrixError.invalidIntent "mage hand distance must use five-foot increments") = .ok () :=
    rejectIf_of_not (not_not.mpr hd)
  simp only [reconcileMageHandDistance, okOr_some, leaving_ok, ok_bind, leaving_of_eq_ok hok,
    leaving_of_eq_ok hgrid]
  by_cases hfar : d > 30
  · rw [if_pos hfar, if_pos hfar]; rfl
  · have hnext : ({ hand with distanceFromCasterFeet := d } : MageHandState).Valid :=
      { hv with range := by show d ≤ 30; omega, grid := hd }
    rw [if_neg hfar, if_neg hfar]
    simp only [leaving_of_eq_ok (MageHandState.validate_eq_ok.mpr hnext), ok_bind, pure_eq]

end ManchesterArcana.Rules
