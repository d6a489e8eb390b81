import ManchesterArcana.Core.Identifier
import ManchesterArcana.Effect.Prog

/-!
# `Core.Dice` — dice sources, d20 rolls and the action economy

The rules never draw randomness: they ask a dice source for a die of some size and check what comes back.
A rules function is therefore a `Rolling` program, whose questions are die sizes and whose answers are
faces. The answer is any number at all; a face outside `1..=sides` is the caller's error to report.

The errors of the crate's `GameCoreError` that these functions raise are kept with their data.
-/

namespace ManchesterArcana

open Effect

/-- The part of `GameCoreError` that the rules engine raises. -/
inductive GameCoreError where
  | invalidDieRoll (sides value : Nat)
  | invalidD20Roll (reason : String)
  | turnResourceUnavailable (resource : String)
  | insufficientMovement (requested remaining : Nat)
  deriving DecidableEq

/-- A computation that may ask for dice: the question is the number of sides, the answer the face shown. -/
abbrev Rolling (ε α : Type) := Prog Nat Nat ε α

/-- A face that a die of this size can show. -/
def InRange (sides value : Nat) : Prop := 1 ≤ value ∧ value ≤ sides

instance (sides value : Nat) : Decidable (InRange sides value) := inferInstanceAs (Decidable (_ ∧ _))

/-! ## Checked sums -/

/-- `try_fold` with `checked_add` in a signed type of range `lo..=hi`: the running total, or nothing once it
    leaves the range. -/
def checkedSum (lo hi total : Int) : List Int → Option Int
  | [] => some total
  | v :: vs => if lo ≤ total + v ∧ total + v ≤ hi then checkedSum lo hi (total + v) vs else none

def minI16 : Int := -32768
def maxI16 : Int := 32767
def minI32 : Int := -2147483648
def maxI32 : Int := 2147483647

/-- A checked sum that does not overflow is the sum. -/
theorem checkedSum_eq_some {lo hi total s : Int} {vs : List Int} (h : checkedSum lo hi total vs = some s) :
    s = total + vs.sum := by
  induction vs generalizing total with
  | nil => simp [checkedSum] at h; simp [h]
  | cons v vs ih =>
    unfold checkedSum at h
    split at h
    · rw [ih h, List.sum_cons]; omega
    · cases h

/-- Small terms cannot overflow: every partial sum stays within `bound` per term of the start. -/
theorem checkedSum_of_bound {lo hi total bound : Int} {vs : List Int}
    (hv : ∀ v ∈ vs, -bound ≤ v ∧ v ≤ bound) (hb : 0 ≤ bound)
    (hlo : lo ≤ total - bound * vs.length) (hhi : total + bound * vs.length ≤ hi) :
    checkedSum lo hi total vs = some (total + vs.sum) := by
  induction vs generalizing total with
  | nil => simp [checkedSum]
  | cons v vs ih =>
    have hbv := hv v (by simp)
    have hlen : bound * (v :: vs).length = bound * vs.length + bound := by
      rw [List.length_cons]; push_cast; rw [Int.mul_add, Int.mul_one]
    have hnn : 0 ≤ bound * (vs.length : Int) := Int.mul_nonneg hb (by omega)
    rw [hlen] at hlo hhi
    unfold checkedSum
    rw [if_pos (by omega), ih (fun w hw => hv w (by simp [hw])) (by omega) (by omega), List.sum_cons]
    congr 1
    omega

/-! ## d20 rolls -/

inductive RollMode where
  | normal
  | advantage
  | disadvantage
  deriving DecidableEq

/-- How many sources grant advantage or impose disadvantage. -/
structure RollContext where
  advantageSources : Nat
  disadvantageSources : Nat
  deriving DecidableEq

namespace RollContext

def normal : RollContext := ⟨0, 0⟩
def withAdvantage : RollContext := ⟨1, 0⟩
def withDisadvantage : RollContext := ⟨0, 1⟩

/-- Any amount of advantage and disadvantage together cancels to one roll. -/
def effectiveMode (c : RollContext) : RollMode :=
  match decide (c.advantageSources > 0), decide (c.disadvantageSources > 0) with
  | true, false => .advantage
  | false, true => .disadvantage
  | _, _ => .normal

/-- Sources of two contexts together, saturating at the width of the counters. -/
def combine (base other : RollContext) : RollContext where
  advantageSources := min 255 (base.advantageSources + other.advantageSources)
  disadvantageSources := min 255 (base.disadvantageSources + other.disadvantageSources)

end RollContext

structure D20Roll where
  mode : RollMode
  first : Nat
  second : Option Nat
  selected : Nat
  deriving DecidableEq

namespace D20Roll

/-- The die a mode selects from one or two rolled dice. -/
def select (mode : RollMode) (first : Nat) (second : Option Nat) : Nat :=
  match mode, second with
  | .advantage, some other => max first other
  | .disadvantage, some other => min first other
  | _, _ => first

/-- Validates a result reconstructed from an untrusted or persisted source. -/
def validate (r : D20Roll) : Except GameCoreError Unit := do
  rejectIf (¬ InRange 20 r.first ∨ ∃ s ∈ r.second, ¬ InRange 20 s)
    (.invalidD20Roll "die values must be between 1 and 20")
  rejectIf (r.mode = .normal ∧ r.second.isSome)
    (.invalidD20Roll "a normal roll must contain exactly one die")
  rejectIf (r.mode ≠ .normal ∧ r.second.isNone)
    (.invalidD20Roll "advantage and disadvantage require two dice")
  rejectIf (r.selected ≠ select r.mode r.first r.second)
    (.invalidD20Roll "selected die does not match the roll mode")

end D20Roll

/-- Ask for one die and insist that the face shown belongs to it. -/
def rollValidated (sides : Nat) : Rolling GameCoreError Nat := do
  let value ← Prog.question sides
  Prog.reject (¬ InRange sides value) (.invalidDieRoll sides value)
  return value

def resolveD20 (context : RollContext) : Rolling GameCoreError D20Roll := do
  let mode := context.effectiveMode
  let first ← rollValidated 20
  let second ← match mode with
    | .normal => pure none
    | .advantage | .disadvantage => some <$> rollValidated 20
  return { mode, first, second, selected := D20Roll.select mode first second }

/-! ## Action economy -/

inductive TurnResource where
  | action
  | bonusAction
  | reaction
  | objectInteraction
  deriving DecidableEq

def TurnResource.name : TurnResource → String
  | .action => "action"
  | .bonusAction => "bonus_action"
  | .reaction => "reaction"
  | .objectInteraction => "object_interaction"

structure ActionEconomy where
  actionAvailable : Bool
  bonusActionAvailable : Bool
  reactionAvailable : Bool
  objectInteractionAvailable : Bool
  movementRemainingFeet : Nat
  deriving DecidableEq

namespace ActionEconomy

/-- A fresh turn. A bonus action only exists when a feature grants one. -/
def new (speedFeet : Nat) : ActionEconomy where
  actionAvailable := true
  bonusActionAvailable := false
  reactionAvailable := true
  objectInteractionAvailable := true
  movementRemainingFeet := speedFeet

def grantBonusAction (e : ActionEconomy) : ActionEconomy :=
  { e with bonusActionAvailable := true }

def available (e : ActionEconomy) : TurnResource → Bool
  | .action => e.actionAvailable
  | .bonusAction => e.bonusActionAvailable
  | .reaction => e.reactionAvailable
  | .objectInteraction => e.objectInteractionAvailable

def withoutResource (e : ActionEconomy) : TurnResource → ActionEconomy
  | .action => { e with actionAvailable := false }
  | .bonusAction => { e with bonusActionAvailable := false }
  | .reaction => { e with reactionAvailable := false }
  | .objectInteraction => { e with objectInteractionAvailable := false }

def spend (e : ActionEconomy) (resource : TurnResource) : Except GameCoreError ActionEconomy := do
  rejectIf (e.available resource = false) (.turnResourceUnavailable resource.name)
  return e.withoutResource resource

end ActionEconomy

/-! ## What the dice functions do -/

/-- A validated die is one answer, and it lies on the die. -/
theorem rollValidated_returns {sides v : Nat} {t : List (Nat × Nat)} :
    Prog.Returns (rollValidated sides) t v ↔ t = [(sides, v)] ∧ InRange sides v := by
  simp only [rollValidated, Prog.question, Prog.ask_bind, Prog.ok_bind, Prog.returns_ask,
    Prog.returns_reject_bind, Prog.pure_eq, Prog.returns_ok, not_not]
  constructor
  · rintro ⟨r, _, rfl, hr, rfl, rfl⟩; exact ⟨rfl, hr⟩
  · rintro ⟨rfl, hr⟩; exact ⟨v, [], rfl, hr, rfl, rfl⟩

/-- **A straight d20 is one die, recorded as shown.** -/
theorem resolveD20_normal_returns {t : List (Nat × Nat)} {r : D20Roll} :
    Prog.Returns (resolveD20 .normal) t r ↔
      ∃ v, InRange 20 v ∧ t = [(20, v)] ∧ r = ⟨.normal, v, none, v⟩ := by
  have hmode : RollContext.normal.effectiveMode = .normal := rfl
  simp only [resolveD20, hmode, Prog.returns_bind, rollValidated_returns, Prog.pure_eq, Prog.returns_ok]
  constructor
  · rintro ⟨_, _, v, rfl, ⟨rfl, hv⟩, _, _, _, rfl, ⟨rfl, rfl⟩, rfl, rfl⟩
    exact ⟨v, hv, rfl, rfl⟩
  · rintro ⟨v, hv, rfl, rfl⟩
    exact ⟨[(20, v)], [], v, rfl, ⟨rfl, hv⟩, [], [], none, rfl, ⟨rfl, rfl⟩, rfl, rfl⟩

end ManchesterArcana
