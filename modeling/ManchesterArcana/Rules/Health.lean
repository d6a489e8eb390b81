import ManchesterArcana.Rules.Basic

/-!
# `Rules.Health` — hit points, death saves and recovery

The rules matrix keeps a creature's health in one record and changes it through a handful of transitions:
damage, healing, temporary hit points, death saving throws, stabilization and the recovery that the
story-recovery policy grants after a defeat. Each transition validates the record on entry and again on
exit.

`HealthState.Valid` is the invariant the entry check decides; `HealthState.validate_eq_ok` connects the two.
-/

namespace ManchesterArcana

/-- What a defeat costs: a story setback, or what the rules as written say. -/
inductive LethalityPolicy where
  | storyRecovery
  | rulesAsWritten
  deriving DecidableEq

end ManchesterArcana

namespace ManchesterArcana.Rules

open Effect

/-! ## Health -/

structure DeathSaveTally where
  successes : Nat := 0
  failures : Nat := 0
  deriving DecidableEq

inductive VitalStatus where
  | active
  | dying
  | stable
  | dead
  deriving DecidableEq

structure HealthState where
  schemaVersion : Nat := rulesMatrixSchemaVersion
  maximum : Nat
  current : Nat
  temporary : Nat
  vitalStatus : VitalStatus
  deathSaves : DeathSaveTally
  deriving DecidableEq

namespace HealthState

/-- The shape each vital status demands of hit points and death saves. -/
def StatusShape (h : HealthState) : Prop :=
  match h.vitalStatus with
  | .active => h.current ≠ 0 ∧ h.deathSaves = {}
  | .dying => h.current = 0 ∧ h.deathSaves.successes < 3 ∧ h.deathSaves.failures < 3
  | .stable => h.current = 0 ∧ h.deathSaves.successes = 3 ∧ h.deathSaves.failures < 3
  | .dead => h.current = 0 ∧ h.deathSaves.failures = 3

structure Valid (h : HealthState) : Prop where
  schema : h.schemaVersion = rulesMatrixSchemaVersion
  maximum_pos : h.maximum ≠ 0
  current_le : h.current ≤ h.maximum
  successes_le : h.deathSaves.successes ≤ 3
  failures_le : h.deathSaves.failures ≤ 3
  shape : h.StatusShape

def validate (h : HealthState) : RulesMatrixResult Unit := do
  rejectIf (h.schemaVersion ≠ rulesMatrixSchemaVersion ∨ h.maximum = 0 ∨ h.current > h.maximum ∨
      h.deathSaves.successes > 3 ∨ h.deathSaves.failures > 3)
    (.invalidState "health schema, bounds, or death-save counts are invalid")
  match h.vitalStatus with
  | .active =>
    rejectIf (h.current = 0 ∨ h.deathSaves ≠ {})
      (.invalidState "active health requires hit points and cleared death saves")
  | .dying =>
    rejectIf (h.current ≠ 0 ∨ h.deathSaves.successes ≥ 3 ∨ h.deathSaves.failures ≥ 3)
      (.invalidState "dying health has a terminal or positive-HP state")
  | .stable =>
    rejectIf (h.current ≠ 0 ∨ h.deathSaves.successes ≠ 3 ∨ h.deathSaves.failures ≥ 3)
      (.invalidState "stable health requires exactly three successes")
  | .dead =>
    rejectIf (h.current ≠ 0 ∨ h.deathSaves.failures ≠ 3)
      (.invalidState "dead health requires exactly three failures")

/-- **The entry check decides the invariant.** -/
theorem validate_eq_ok {h : HealthState} : h.validate = .ok () ↔ h.Valid := by
  have hshape : (match h.vitalStatus with
      | .active => rejectIf (h.current = 0 ∨ h.deathSaves ≠ {})
          (.invalidState "active health requires hit points and cleared death saves")
      | .dying => rejectIf (h.current ≠ 0 ∨ h.deathSaves.successes ≥ 3 ∨ h.deathSaves.failures ≥ 3)
          (.invalidState "dying health has a terminal or positive-HP state")
      | .stable => rejectIf (h.current ≠ 0 ∨ h.deathSaves.successes ≠ 3 ∨ h.deathSaves.failures ≥ 3)
          (.invalidState "stable health requires exactly three successes")
      | .dead => rejectIf (h.current ≠ 0 ∨ h.deathSaves.failures ≠ 3)
          (.invalidState "dead health requires exactly three failures") : RulesMatrixResult Unit) = .ok () ↔
      h.StatusShape := by
    unfold StatusShape
    cases h.vitalStatus <;> simp [not_or]
  simp only [validate, seq_eq_ok, rejectIf_eq_ok, hshape]
  constructor
  · rintro ⟨hb, hs⟩
    simp only [not_or, not_not, Nat.not_lt] at hb
    exact ⟨hb.1, hb.2.1, hb.2.2.1, hb.2.2.2.1, hb.2.2.2.2, hs⟩
  · intro hv
    refine ⟨?_, hv.shape⟩
    have := hv.current_le
    have := hv.successes_le
    have := hv.failures_le
    simp only [not_or, not_not, Nat.not_lt]
    exact ⟨hv.schema, hv.maximum_pos, hv.current_le, hv.successes_le, hv.failures_le⟩

end HealthState

/-! ## Damage -/

/-- Damage types a creature resists, is vulnerable to, or ignores; each list sorted and duplicate-free. -/
structure DamageProfile where
  resistances : List DamageType
  vulnerabilities : List DamageType
  immunities : List DamageType
  deriving DecidableEq

namespace DamageProfile

def normal : DamageProfile := ⟨[], [], []⟩

/-- Adjacent entries strictly increase, in the declaration order of the damage types. -/
def sortedUnique : List DamageType → Bool
  | a :: b :: rest => decide (a.ctorIdx < b.ctorIdx) && sortedUnique (b :: rest)
  | _ => true

def validate (p : DamageProfile) : RulesMatrixResult Unit := do
  rejectIf (¬ ([p.resistances, p.vulnerabilities, p.immunities].all sortedUnique))
    (.invalidState "damage interaction lists must be sorted and unique")
  rejectIf (∃ kind ∈ p.immunities, kind ∈ p.resistances ∨ kind ∈ p.vulnerabilities)
    (.invalidState "immunity cannot overlap another damage interaction")

def interaction (p : DamageProfile) (damageType : DamageType) : RulesMatrixResult DamageInteraction := do
  p.validate
  return if damageType ∈ p.immunities then .immunity
    else match decide (damageType ∈ p.resistances), decide (damageType ∈ p.vulnerabilities) with
      | true, true | false, false => .normal
      | true, false => .resistance
      | false, true => .vulnerability

@[simp] theorem normal_validate : normal.validate = .ok () := by decide

@[simp] theorem normal_interaction (damageType : DamageType) :
    normal.interaction damageType = .ok .normal := rfl

end DamageProfile

structure DamageRequest where
  amount : Nat
  damageType : DamageType
  criticalHit : Bool
  deriving DecidableEq

inductive HealthConditionChange where
  | applyZeroHitPointUnconscious
  | applyProne
  | removeZeroHitPointConditions
  | wakeFromSleep
  deriving DecidableEq

structure DamageResolution where
  requestedDamage : Nat
  interaction : DamageInteraction
  effectiveDamage : Nat
  temporaryHitPointsLost : Nat
  currentHitPointsLost : Nat
  excessDamage : Nat
  deathSaveFailuresAdded : Nat
  conditionChanges : List HealthConditionChange
  resultingHealth : HealthState
  deriving DecidableEq

/-- Largest value of a 16-bit counter. -/
def maxU16 : Nat := 65535

def interactedDamage (amount : Nat) : DamageInteraction → RulesMatrixResult Nat
  | .normal => .ok amount
  | .resistance => .ok (amount / 2)
  | .vulnerability => do
    rejectIf (amount * 2 > maxU16) .arithmeticOverflow
    return amount * 2
  | .immunity => .ok 0

/-- What the vital status and the death saves become once `effective` damage has brought the hit points from
    `before` down to `h.current`, with `excess` left over. Returns the number of failures recorded and the
    condition changes the transition demands. -/
def HealthState.settleDamage (h : HealthState) (before effective excess : Nat) (critical : Bool) :
    HealthState × Nat × List HealthConditionChange :=
  if before > 0 ∧ h.current = 0 then
    if excess ≥ h.maximum then
      ({ h with vitalStatus := .dead, deathSaves := ⟨0, 3⟩ }, 0, [])
    else
      ({ h with vitalStatus := .dying, deathSaves := {} }, 0,
        [.applyZeroHitPointUnconscious, .applyProne])
  else if before = 0 ∧ effective > 0 then
    -- damage to a stable creature starts a fresh tally before the failure is counted
    let h := if h.vitalStatus = .stable then { h with vitalStatus := .dying, deathSaves := {} } else h
    if h.vitalStatus = .dying then
      let added := if critical then 2 else 1
      let failures := min (h.deathSaves.failures + added) 3
      ({ h with
          deathSaves := { h.deathSaves with failures }
          vitalStatus := if failures = 3 then .dead else h.vitalStatus }, added, [])
    else (h, 0, [])
  else (h, 0, [])

namespace HealthState

variable {h : HealthState} {effective excess : Nat} {critical : Bool}

/-- Brought down: dying, or dead at once when the excess is massive. -/
theorem settleDamage_falls {before : Nat}
    (hup : before > 0) (hdown : h.current = 0) :
    (h.settleDamage before effective excess critical).1 =
      if excess ≥ h.maximum then { h with vitalStatus := .dead, deathSaves := ⟨0, 3⟩ }
      else { h with vitalStatus := .dying, deathSaves := {} } := by
  rw [settleDamage, if_pos ⟨hup, hdown⟩]
  split <;> rfl

/-- Still standing: nothing to settle. -/
theorem settleDamage_stands {before : Nat}
    (hup : before > 0) (hstill : h.current ≠ 0) :
    (h.settleDamage before effective excess critical).1 = h := by
  rw [settleDamage, if_neg (fun hh => hstill hh.2), if_neg (fun hh => absurd hh.1 (by omega))]

/-- Hit while dying: one failure, or two of a critical hit; the third kills. -/
theorem settleDamage_dying
    (heff : effective > 0) (hdying : h.vitalStatus = .dying) :
    (h.settleDamage 0 effective excess critical).1 =
      let failures := min (h.deathSaves.failures + if critical then 2 else 1) 3
      { h with
        deathSaves := { h.deathSaves with failures }
        vitalStatus := if failures = 3 then .dead else .dying } := by
  rw [settleDamage, if_neg (fun hh => absurd hh.1 (Nat.lt_irrefl 0)), if_pos ⟨rfl, heff⟩]
  simp only [hdying, reduceCtorEq, if_false, if_true]

/-- Hit while stable: dying again, with a fresh tally. -/
theorem settleDamage_stable
    (heff : effective > 0) (hstable : h.vitalStatus = .stable) :
    (h.settleDamage 0 effective excess critical).1 =
      { h with vitalStatus := .dying, deathSaves := ⟨0, if critical then 2 else 1⟩ } := by
  rw [settleDamage, if_neg (fun hh => absurd hh.1 (Nat.lt_irrefl 0)), if_pos ⟨rfl, heff⟩]
  cases critical <;> simp [hstable]

end HealthState

def applyDamage (health : HealthState) (profile : DamageProfile) (request : DamageRequest) :
    Mutating HealthState (DamageResolution × HealthState) := do
  leaving health health.validate
  leaving health profile.validate
  leaving health (rejectIf (request.amount = 0) (.invalidIntent "damage must be positive"))
  leaving health (rejectIf (health.vitalStatus = .dead)
    (.invalidIntent "dead targets cannot receive this MVP damage transition"))
  let interaction ← leaving health (profile.interaction request.damageType)
  let effectiveDamage ← leaving health (interactedDamage request.amount interaction)
  let temporaryHitPointsLost := min health.temporary effectiveDamage
  let remainingDamage := effectiveDamage - temporaryHitPointsLost
  let currentHitPointsLost := min health.current remainingDamage
  let excessDamage := remainingDamage - currentHitPointsLost
  let reduced := { health with
    temporary := health.temporary - temporaryHitPointsLost
    current := health.current - currentHitPointsLost }
  let (next, deathSaveFailuresAdded, changes) :=
    reduced.settleDamage health.current effectiveDamage excessDamage request.criticalHit
  leaving next next.validate
  return (
    { requestedDamage := request.amount
      interaction, effectiveDamage, temporaryHitPointsLost, currentHitPointsLost, excessDamage
      deathSaveFailuresAdded
      conditionChanges := (if effectiveDamage > 0 then [.wakeFromSleep] else []) ++ changes
      resultingHealth := next }, next)

/-- The health a mutating transition leaves behind, whether it succeeded or failed. -/
def healthAfter {α : Type} : Mutating HealthState (α × HealthState) → HealthState
  | .ok (_, h) => h
  | .error (_, h) => h

/-! ## Healing and recovery -/

structure HealingResolution where
  requestedHealing : Nat
  effectiveHealing : Nat
  conditionChanges : List HealthConditionChange
  resultingHealth : HealthState
  deriving DecidableEq

def applyHealing (health : HealthState) (amount : Nat) : Mutating HealthState (HealingResolution × HealthState) := do
  leaving health health.validate
  leaving health (rejectIf (amount = 0) (.invalidIntent "healing must be positive"))
  leaving health (rejectIf (health.vitalStatus = .dead) (unsupportedMechanic "health.restore-dead"))
  let effectiveHealing := min (health.maximum - health.current) amount
  let healed := { health with current := health.current + effectiveHealing }
  let revives := decide (effectiveHealing > 0) && decide (healed.vitalStatus ≠ .active)
  let next := if revives then { healed with vitalStatus := .active, deathSaves := {} } else healed
  leaving next next.validate
  return (
    { requestedHealing := amount
      effectiveHealing
      conditionChanges := if revives then [.removeZeroHitPointConditions] else []
      resultingHealth := next }, next)

/-! ## Death saving throws -/

inductive DeathSaveOutcome where
  | success
  | failure
  | criticalFailure
  | revived
  | stabilized
  | died
  deriving DecidableEq

structure DeathSaveResolution where
  roll : D20Roll
  outcome : DeathSaveOutcome
  conditionChanges : List HealthConditionChange
  resultingHealth : HealthState
  deriving DecidableEq

/-- What one face does to a dying creature. -/
def HealthState.settleDeathSave (h : HealthState) (face : Nat) :
    HealthState × DeathSaveOutcome × List HealthConditionChange :=
  let fail (failures : Nat) (survived : DeathSaveOutcome) :=
    let h := { h with deathSaves := { h.deathSaves with failures } }
    if failures = 3 then ({ h with vitalStatus := .dead }, .died, []) else (h, survived, [])
  if face = 20 then
    ({ h with current := 1, vitalStatus := .active, deathSaves := {} }, .revived,
      [.removeZeroHitPointConditions])
  else if face = 1 then fail (min (h.deathSaves.failures + 2) 3) .criticalFailure
  else if 10 ≤ face ∧ face ≤ 19 then
    let successes := h.deathSaves.successes + 1
    let h := { h with deathSaves := { h.deathSaves with successes } }
    if successes = 3 then ({ h with vitalStatus := .stable }, .stabilized, []) else (h, .success, [])
  else fail (h.deathSaves.failures + 1) .failure

/-- A straight d20 saving throw of a dying creature. The errors carry the health at the point of failure. -/
def resolveDeathSave (health : HealthState) :
    Rolling (RulesMatrixError × HealthState) (DeathSaveResolution × HealthState) := do
  Prog.lift (leaving health health.validate)
  Prog.lift (leaving health (rejectIf (health.vitalStatus ≠ .dying)
    (.invalidIntent "only a dying hero makes death saves")))
  let roll ← (resolveD20 .normal).mapErr fun e => (.core e, health)
  let (next, outcome, conditionChanges) := health.settleDeathSave roll.selected
  Prog.lift (leaving next next.validate)
  return ({ roll, outcome, conditionChanges, resultingHealth := next }, next)

/-- Every face keeps a dying creature's health valid. -/
theorem HealthState.settleDeathSave_valid {h : HealthState} (hv : h.Valid) (hd : h.vitalStatus = .dying)
    (face : Nat) : (h.settleDeathSave face).1.Valid := by
  have hshape := hv.shape
  unfold StatusShape at hshape
  rw [hd] at hshape
  obtain ⟨hdown, hs, hf⟩ := hshape
  have hmax := hv.maximum_pos
  have hfail (failures : Nat) (hle : failures ≤ 3) :
      (failures = 3 → ({ h with
        deathSaves := { h.deathSaves with failures }, vitalStatus := .dead } : HealthState).Valid) ∧
      (failures ≠ 3 → ({ h with deathSaves := { h.deathSaves with failures } } : HealthState).Valid) := by
    refine ⟨fun h3 => ⟨hv.schema, hmax, hv.current_le, hv.successes_le, hle, hdown, h3⟩, fun h3 => ?_⟩
    refine ⟨hv.schema, hmax, hv.current_le, hv.successes_le, hle, ?_⟩
    unfold StatusShape
    rw [hd]
    exact ⟨hdown, hs, by show failures < 3; omega⟩
  unfold settleDeathSave
  split
  · exact ⟨hv.schema, hmax, by show 1 ≤ h.maximum; omega, Nat.zero_le _, Nat.zero_le _, Nat.one_ne_zero, rfl⟩
  split
  · dsimp only
    split
    · next h3 => exact (hfail _ (Nat.min_le_right _ _)).1 h3
    · next h3 => exact (hfail _ (Nat.min_le_right _ _)).2 h3
  split
  · dsimp only
    split
    · next h3 => exact ⟨hv.schema, hmax, hv.current_le, Nat.le_of_eq h3, hv.failures_le, hdown, h3, hf⟩
    · next h3 =>
      refine ⟨hv.schema, hmax, hv.current_le, by show h.deathSaves.successes + 1 ≤ 3; omega, hv.failures_le, ?_⟩
      unfold StatusShape
      rw [hd]
      exact ⟨hdown, by show h.deathSaves.successes + 1 < 3; omega, hf⟩
  · dsimp only
    split
    · next h3 => exact (hfail _ (Nat.le_of_eq h3)).1 h3
    · next h3 => exact (hfail _ (by omega)).2 h3

/-- **A dying creature's death save never fails, and settles by its face.** -/
theorem resolveDeathSave_returns {h : HealthState} (hv : h.Valid) (hd : h.vitalStatus = .dying) {face : Nat}
    (hf : InRange 20 face) :
    ∃ r, Prog.Returns (resolveDeathSave h) [(20, face)] (r, (h.settleDeathSave face).1) := by
  have hnext := HealthState.settleDeathSave_valid hv hd face
  refine ⟨{ roll := ⟨.normal, face, none, face⟩, outcome := (h.settleDeathSave face).2.1
            conditionChanges := (h.settleDeathSave face).2.2
            resultingHealth := (h.settleDeathSave face).1 }, ?_⟩
  rw [resolveDeathSave]
  refine Prog.returns_lift_bind.mpr ⟨(), leaving_of_eq_ok (HealthState.validate_eq_ok.mpr hv), ?_⟩
  refine Prog.returns_lift_bind.mpr ⟨(), leaving_of_eq_ok (rejectIf_of_not (not_not.mpr hd)), ?_⟩
  refine Prog.returns_bind.mpr ⟨[(20, face)], [], ⟨.normal, face, none, face⟩, rfl, ?_, ?_⟩
  · exact Prog.returns_mapErr.mpr (resolveD20_normal_returns.mpr ⟨face, hf, rfl, rfl⟩)
  · dsimp only
    refine Prog.returns_lift_bind.mpr ⟨(), leaving_of_eq_ok (HealthState.validate_eq_ok.mpr hnext), ?_⟩
    exact Prog.returns_ok.mpr ⟨rfl, rfl⟩

def stabilize (health : HealthState) : Mutating HealthState (Unit × HealthState) := do
  leaving health health.validate
  leaving health (rejectIf (health.vitalStatus ≠ .dying)
    (.invalidIntent "only a dying target can be stabilized"))
  let next := { health with
    vitalStatus := .stable
    deathSaves := { successes := 3, failures := health.deathSaves.failures } }
  leaving next next.validate
  return ((), next)

end ManchesterArcana.Rules
