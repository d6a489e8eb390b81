import ManchesterArcana.Core.Dice
import Mathlib.Data.List.Sort

/-!
# `Core.Roll` — dice notation, the deterministic die stream, and durable roll records

A campaign's dice come from one stream of 32-bit words, addressed by a cursor. A die is drawn by rejection
sampling, so it spends at least one word and possibly more. A `RollRecord` is what is kept of a roll: the
notation, the dice, the modifiers, and the range of the cursor that was spent on it.

The generator behind the words is a parameter: the model needs only that a cursor names a word.
-/

namespace ManchesterArcana

open Effect

def maxDiceExpressionLen : Nat := 64
def maxDiceCount : Nat := 100
def maxDieSides : Nat := 10000
def maxDiceConstantAbs : Nat := 100000
def maxRollAbsoluteTotal : Int := 1000000
def maxModifierComponents : Nat := 16
/-- `u64::MAX` and `i64::MAX`, the ends of the cursor and of a sum of dice. -/
def maxCursor : Nat := 2 ^ 64 - 1
def maxI64 : Nat := 2 ^ 63 - 1

inductive RollError where
  | nonAsciiExpression
  | expressionTooLong (maximum : Nat)
  | invalidExpressionSyntax
  | expressionArithmeticOverflow
  | diceCountOutOfRange (count maximum : Nat)
  | dieSidesOutOfRange (sides maximum : Nat)
  | diceConstantOutOfRange (magnitude maximum : Nat)
  | rollTotalOutOfRange (maximum : Int)
  | unsupportedRollMode
  | cursorExhausted
  | invalidRollRecord (reason : String)
  deriving DecidableEq

inductive RulesetId where
  | srd51
  deriving DecidableEq

/-- The one ruleset that is supported. -/
def ruleset : RulesetId := .srd51

/-! ## Dice notation -/

/-- Bounded notation: `NdS` with an optional signed constant. -/
structure DiceExpression where
  count : Nat
  sides : Nat
  constant : Int
  deriving DecidableEq

def validateExpressionParts (count sides : Nat) (constant : Int) : Except RollError Unit := do
  rejectIf (¬ InRange maxDiceCount count) (.diceCountOutOfRange count maxDiceCount)
  rejectIf (¬ InRange maxDieSides sides) (.dieSidesOutOfRange sides maxDieSides)
  rejectIf (maxDiceConstantAbs < constant.natAbs)
    (.diceConstantOutOfRange constant.natAbs maxDiceConstantAbs)
  rejectIf (count + constant < -maxRollAbsoluteTotal ∨ maxRollAbsoluteTotal < count * sides + constant)
    (.rollTotalOutOfRange maxRollAbsoluteTotal)

/-- A run of ASCII digits, read into a `u64`. -/
def parseAsciiU64 (digits : List Char) : Except RollError Nat := do
  rejectIf (digits = [] ∨ digits.any (!·.isDigit) = true) .invalidExpressionSyntax
  digits.foldlM (fun value c => do
    rejectIf (maxCursor < value * 10 + (c.toNat - 48)) .expressionArithmeticOverflow
    return value * 10 + (c.toNat - 48)) 0

def isSign (c : Char) : Bool := c == '+' || c == '-'

/-- The constant that follows the sides, sign included. -/
def parseConstant (sides signed : List Char) : Except RollError Int :=
  match signed with
  | [] => .ok 0
  | sign :: digits => do
    rejectIf (sides = [] ∨ digits = []) .invalidExpressionSyntax
    let magnitude ← parseAsciiU64 digits
    rejectIf (maxI64 < magnitude) .expressionArithmeticOverflow
    return if sign = '-' then -(magnitude : Int) else magnitude

/-- `FromStr`: the notation, split at the `d` and at the sign. -/
def DiceExpression.parse (value : String) : Except RollError DiceExpression := do
  let chars := value.toList
  rejectIf (chars.any (128 ≤ ·.toNat) = true) .nonAsciiExpression
  rejectIf (maxDiceExpressionLen < chars.length) (.expressionTooLong maxDiceExpressionLen)
  let countChars := chars.takeWhile (· != 'd')
  let tail := (chars.dropWhile (· != 'd')).drop 1
  rejectIf (chars.all (· != 'd') = true ∨ countChars = [] ∨ tail = []) .invalidExpressionSyntax
  let sidesChars := tail.takeWhile (!isSign ·)
  let constant ← parseConstant sidesChars (tail.dropWhile (!isSign ·))
  let count ← parseAsciiU64 countChars
  let sides ← parseAsciiU64 sidesChars
  validateExpressionParts count sides constant
  return ⟨count, sides, constant⟩

/-! ## The die stream -/

/-- The words that a seed produces, by cursor. -/
abbrev WordStream := Nat → UInt32

/-- Samples from this one on would favour low faces, and are drawn again. -/
def acceptanceLimit (sides : Nat) : Nat := 2 ^ 32 - 2 ^ 32 % sides

/-- Draw words from `cursor` on, at most as many as are left, until one is accepted; the face, and the cursor
    behind it. -/
def drawWords (words : WordStream) (sides : Nat) : Nat → Nat → Except RollError (Nat × Nat)
  | 0, _ => .error .cursorExhausted
  | left + 1, cursor =>
    let sample := (words cursor).toNat
    if sample < acceptanceLimit sides then .ok (sample % sides + 1, cursor + 1)
    else drawWords words sides left (cursor + 1)

/-- `roll_die_inner`: the last word is not spent, for the cursor behind it would not fit. -/
def rollDieInner (words : WordStream) (sides cursor : Nat) : Except RollError (Nat × Nat) :=
  drawWords words sides (maxCursor - cursor) cursor

/-- `DeterministicRng::roll_die`; an error leaves the cursor where it was. -/
def drawDie (words : WordStream) (sides cursor : Nat) : Except RollError (Nat × Nat) := do
  rejectIf (¬ InRange maxDieSides sides) (.dieSidesOutOfRange sides maxDieSides)
  rollDieInner words sides cursor

variable {words : WordStream} {sides cursor value next : Nat}

/-- **A die that is drawn shows one of its faces and spends at least one word.** -/
theorem drawWords_spends {left : Nat} (hs : 0 < sides)
    (h : drawWords words sides left cursor = .ok (value, next)) :
    InRange sides value ∧ cursor < next ∧ next ≤ cursor + left := by
  induction left generalizing cursor with
  | zero => cases h
  | succ left ih =>
    unfold drawWords at h
    simp only [] at h
    split at h
    · cases h
      have hmod := Nat.mod_lt (words cursor).toNat hs
      exact ⟨⟨Nat.succ_pos _, hmod⟩, Nat.lt_succ_self _, by omega⟩
    · obtain ⟨hv, hlt, hle⟩ := ih h
      exact ⟨hv, Nat.lt_of_succ_lt hlt, by omega⟩

theorem drawDie_eq_ok
    (h : drawDie words sides cursor = .ok (value, next)) :
    InRange maxDieSides sides ∧ InRange sides value ∧ cursor < next := by
  simp only [drawDie, seq_eq_ok, rejectIf_eq_ok, not_not] at h
  obtain ⟨hv, hlt, -⟩ := drawWords_spends h.1.1 h.2
  exact ⟨h.1, hv, hlt⟩

/-! ## Roll records -/

/-- What a roll is before it is given an identity. -/
structure DiceRoll where
  expression : DiceExpression
  rolledDice : List Nat
  keptDice : List Nat
  total : Int
  rollMode : RollMode
  cursorBefore : Nat
  cursorAfter : Nat

structure ModifierComponent where
  name : String
  value : Int
  deriving DecidableEq

structure RollMetadata where
  rollId : String
  purpose : String
  actorId : String
  targetId : Option String
  ruleset : RulesetId
  seedReference : String

inductive RollAlgorithm where
  | chaCha20V1
  deriving DecidableEq

/-- What is kept of one roll. The seed itself is not. -/
structure RollRecord where
  rollId : String
  expression : DiceExpression
  rolledDice : List Nat
  keptDice : List Nat
  modifierComponents : List ModifierComponent
  total : Int
  purpose : String
  actorId : String
  targetId : Option String
  rollMode : RollMode
  ruleset : RulesetId
  algorithmId : RollAlgorithm
  seedReference : String
  cursorBefore : Nat
  cursorAfter : Nat
  deriving DecidableEq

namespace RollRecord

/-- Names are valid and strictly ascending; the sum of the values. -/
def checkComponents : Option String → Int → List ModifierComponent → Except RollError Int
  | _, total, [] => .ok total
  | previous, total, component :: rest => do
    rejectIf (isValidOpaqueId component.name = false)
      (.invalidRollRecord "modifier name is not a valid opaque identifier")
    rejectIf (∃ name ∈ previous, ¬ name < component.name)
      (.invalidRollRecord "modifier names must be unique and canonically sorted")
    rejectIf (total + component.value < -2 ^ 63 ∨ maxI64 < total + component.value)
      (.invalidRollRecord "modifier total overflowed")
    checkComponents (some component.name) (total + component.value) rest

/-- The words that a roll of this shape spends at least. -/
def minimumWords (r : RollRecord) : Except RollError Nat :=
  match r.rollMode with
  | .normal => do
    rejectIf (r.rolledDice.length ≠ r.expression.count ∨ r.keptDice ≠ r.rolledDice)
      (.invalidRollRecord "normal rolls must roll and keep the expression's dice")
    return r.expression.count
  | mode =>
    match r.rolledDice, r.keptDice with
    | [first, second], [kept] => do
      rejectIf (r.expression.count ≠ 1 ∨ r.expression.sides ≠ 20)
        (.invalidRollRecord "advantage and disadvantage require two rolled d20s and one kept die")
      rejectIf (kept ≠ if mode = .advantage then max first second else min first second)
        (.invalidRollRecord "kept d20 does not match the roll mode")
      return 2
    | _, _ => .error
      (.invalidRollRecord "advantage and disadvantage require two rolled d20s and one kept die")

def validate (r : RollRecord) : Except RollError Unit := do
  rejectIf (isValidOpaqueId r.rollId = false)
    (.invalidRollRecord "roll_id is not a valid opaque identifier")
  rejectIf (isValidOpaqueId r.purpose = false)
    (.invalidRollRecord "purpose is not a valid opaque identifier")
  rejectIf (isValidOpaqueId r.actorId = false)
    (.invalidRollRecord "actor_id is not a valid opaque identifier")
  rejectIf (isValidOpaqueId r.seedReference = false)
    (.invalidRollRecord "seed_reference is not a valid opaque identifier")
  rejectIf (∃ id ∈ r.targetId, isValidOpaqueId id = false)
    (.invalidRollRecord "target_id is not a valid opaque identifier")
  rejectIf (r.algorithmId ≠ .chaCha20V1) (.invalidRollRecord "algorithm is not supported")
  rejectIf (maxModifierComponents < r.modifierComponents.length)
    (.invalidRollRecord "too many modifier components")
  let modifierTotal ← checkComponents none 0 r.modifierComponents
  rejectIf (modifierTotal ≠ r.expression.constant)
    (.invalidRollRecord "modifier components do not equal the expression constant")
  let minimumWords ← r.minimumWords
  rejectIf (∃ die ∈ r.rolledDice, ¬ InRange r.expression.sides die)
    (.invalidRollRecord "rolled die is outside the expression's side range")
  let expectedTotal := modifierTotal + (r.keptDice.map (Int.ofNat ·)).sum
  rejectIf (maxI64 < expectedTotal) (.invalidRollRecord "roll total overflowed")
  rejectIf (expectedTotal ≠ r.total) (.invalidRollRecord "total does not equal kept dice plus modifiers")
  rejectIf (maxRollAbsoluteTotal < expectedTotal.natAbs)
    (.invalidRollRecord "total is outside the supported range")
  rejectIf (r.cursorAfter < r.cursorBefore) (.invalidRollRecord "cursor_after precedes cursor_before")
  rejectIf (r.cursorAfter - r.cursorBefore < minimumWords)
    (.invalidRollRecord "cursor range is too short for the rolled dice")

/-- A record with its modifiers in canonical order, if it is a valid one. -/
def fromRoll (roll : DiceRoll) (metadata : RollMetadata) (modifiers : List ModifierComponent) :
    Except RollError RollRecord := do
  let record : RollRecord :=
    { rollId := metadata.rollId
      expression := roll.expression
      rolledDice := roll.rolledDice
      keptDice := roll.keptDice
      modifierComponents := modifiers.mergeSort fun a b => !decide (b.name < a.name)
      total := roll.total
      purpose := metadata.purpose
      actorId := metadata.actorId
      targetId := metadata.targetId
      rollMode := roll.rollMode
      ruleset := metadata.ruleset
      algorithmId := .chaCha20V1
      seedReference := metadata.seedReference
      cursorBefore := roll.cursorBefore
      cursorAfter := roll.cursorAfter }
  record.validate
  return record

end RollRecord

end ManchesterArcana
