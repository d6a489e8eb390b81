import ManchesterArcana.Core.Text
import ManchesterArcana.Encounter.Combatant

/-!
# `Encounter.Rolls` — raw rolls: how they are made, and when a record of one is valid

A raw roll records everything about one throw. `RawRollFacts.validate` recomputes from the dice and the
modifiers what the record says about kept dice, total, expression and outcome; `RawRollFacts.Valid` names the
parts. `performRoll` throws the dice of a request and builds the record, `RollRequest.facts` is the record it
builds from given faces, and `facts_valid` says that a well-formed request with in-range faces has a valid
one — so the check inside `performRoll` never fails.
-/

namespace ManchesterArcana.Encounter

open Effect Rules
open List (length_eq_one_iff length_map mem_map sum_cons sum_nil)

/-- `2d6+3`, `1d20-1`, `5d8`: count, sides, and the modifier with its sign unless it is zero. -/
def diceExpression (diceCount sides : Nat) (modifier : Int) : String :=
  let dice := toString diceCount ++ "d" ++ toString sides
  if modifier > 0 then dice ++ "+" ++ toString modifier
  else if modifier < 0 then dice ++ toString modifier
  else dice

variable {sides n : Nat} {t : List (Nat × Nat)}

theorem diceExpression_not_blank {count : Nat} {m : Int} :
    isBlank (diceExpression count sides m) = false := by
  have hd : isBlank "d" = false := by decide
  unfold diceExpression
  split
  · simp [isBlank_append, hd]
  · split <;> simp [isBlank_append, hd]

/-! ## The check on a record -/

namespace RawRollFacts

/-- Sides of the dice of the roll; every die of a valid roll has the sides of the first. -/
def dieSides (r : RawRollFacts) : Nat :=
  match r.individualDice with
  | die :: _ => die.sides
  | [] => 0

def validateMode (r : RawRollFacts) : EncounterResult Unit :=
  match r.mode with
  | .normal =>
    rejectIf (r.keptDieIndices ≠ List.range r.individualDice.length)
      (.invalidState "raw roll mode and kept dice are inconsistent")
  | mode =>
    match r.individualDice, r.keptDieIndices with
    | [first, second], [index] => do
      rejectIf (first.sides ≠ 20) (.invalidState "raw roll mode and kept dice are inconsistent")
      let expected := if mode = .advantage then max first.value second.value else min first.value second.value
      rejectIf (([first, second][index]?.map (·.value)) ≠ some expected)
        (.invalidState "advantage or disadvantage kept the wrong d20")
    | _, _ => .error (.invalidState "raw roll mode and kept dice are inconsistent")

/-- The values of the kept dice, in the order of their indices. -/
def keptValues (r : RawRollFacts) : List Int :=
  r.keptDieIndices.map fun i => ((r.individualDice[i]?.map (·.value)).getD 0 : Nat)

def modifierValues (r : RawRollFacts) : List Int := r.modifiers.map (·.value.toInt)

/-- Actor, target, action and dice that each purpose calls for. -/
def ShapeOk (r : RawRollFacts) : Prop :=
  match r.purpose with
  | .initiative => r.targetId = none ∧ r.actionId = none ∧ r.individualDice.length = 1 ∧
      r.naturalD20.isSome = true
  | .attack => r.targetId.isSome = true ∧ r.actionId.isSome = true ∧
      (r.individualDice.length = 1 ∨ r.individualDice.length = 2) ∧ r.naturalD20.isSome = true
  | .damage => r.targetId.isSome = true ∧ r.actionId.isSome = true ∧
      (r.individualDice.length = 1 ∨ r.individualDice.length = 2) ∧ r.naturalD20 = none
  | .healing => r.targetId = some r.actorId ∧ r.actionId.isSome = true ∧ r.individualDice.length = 1 ∧
      r.naturalD20 = none
  | .sleepHitPoints => r.targetId.isSome = true ∧ r.actionId = some SpellId.sleep.mechanicId ∧
      r.individualDice.length = 5 ∧ r.naturalD20 = none
  | .hitDie => r.targetId = some r.actorId ∧ r.actionId = some hitDieActionId ∧
      r.individualDice.length = 1 ∧ r.naturalD20 = none
  | .deathSave => r.targetId = some r.actorId ∧ r.actionId = none ∧ r.individualDice.length = 1 ∧
      r.naturalD20.isSome = true

instance (r : RawRollFacts) : Decidable r.ShapeOk := by
  unfold ShapeOk; cases r.purpose <;> infer_instance

/-- The outcome of an attack by natural die and total. -/
def attackOutcome (natural : Nat) (total target : Int) : RawRollOutcome :=
  if natural = 1 then .automaticMiss else if natural = 20 then .criticalHit
  else if total ≥ target then .hit else .miss

/-- The outcome of a death save by natural die and total. -/
def deathSaveOutcome (natural : Nat) (total target : Int) : RawRollOutcome :=
  if natural = 1 then .naturalOneFailure else if natural = 20 then .naturalTwentyRecovery
  else if total ≥ target then .success else .failure

def validateOutcome (r : RawRollFacts) : EncounterResult Unit :=
  match r.purpose, r.comparison, r.naturalD20 with
  | .attack, some ⟨.armorClass, value⟩, some natural =>
    rejectIf (r.outcome ≠ attackOutcome natural r.total value)
      (.invalidState "raw attack roll outcome is inconsistent")
  | .deathSave, some ⟨.deathSaveDifficultyClass, value⟩, some natural =>
    rejectIf (r.outcome ≠ deathSaveOutcome natural r.total value)
      (.invalidState "raw death-save outcome is inconsistent")
  | .initiative, none, _ | .damage, none, _ | .healing, none, _ | .sleepHitPoints, none, _
  | .hitDie, none, _ =>
    rejectIf (r.outcome ≠ .total)
      (.invalidState "raw roll purpose, comparison, or outcome is inconsistent")
  | _, _, _ => .error (.invalidState "raw roll purpose, comparison, or outcome is inconsistent")

def validate (r : RawRollFacts) : EncounterResult Unit := do
  rejectIf (r.sequence = 0 ∨ isValidOpaqueId r.actorId = false ∨
      (∃ id ∈ r.targetId, isValidOpaqueId id = false) ∨ (∃ id ∈ r.actionId, isValidOpaqueId id = false) ∨
      isBlank r.expression ∨ r.individualDice = [] ∨
      ∃ die ∈ r.individualDice, die.sides = 0 ∨ die.value = 0 ∨ die.value > die.sides)
    (.invalidState "raw roll identity, expression, or die values are invalid")
  rejectIf (r.individualDice.length > maxU16) (.invalidState "raw roll has too many dice")
  rejectIf (¬ r.keptDieIndices.Nodup ∨ (∃ i ∈ r.keptDieIndices, i ≥ r.individualDice.length) ∨
      ∃ die ∈ r.individualDice, die.sides ≠ r.dieSides)
    (.invalidState "raw roll kept-die indices or die sizes are invalid")
  r.validateMode
  rejectIf (¬ (r.modifiers.map (·.sourceId)).Nodup ∨
      ∃ m ∈ r.modifiers, isValidOpaqueId m.sourceId = false)
    (.invalidState "raw roll modifier identifiers must be valid and unique")
  let keptTotal := checkedSum minI32 maxI32 0 r.keptValues
  let modifierTotal := checkedSum minI32 maxI32 0 r.modifierValues
  rejectIf ((do checkedSum minI32 maxI32 (← keptTotal) [← modifierTotal]) ≠ some r.total)
    (.invalidState "raw roll total does not match kept dice and modifiers")
  let modifierTotal ← okOr modifierTotal (.invalidState "raw roll modifiers overflowed")
  rejectIf (r.expression ≠ diceExpression r.individualDice.length r.dieSides modifierTotal)
    (.invalidState "raw roll expression does not match dice and modifiers")
  rejectIf (∃ natural ∈ r.naturalD20,
      (r.keptDieIndices.head?.bind (r.individualDice[·]?)) ≠ some ⟨20, natural⟩)
    (.invalidState "natural d20 does not match the kept d20 value")
  rejectIf (¬ r.ShapeOk) (.invalidState "raw roll actor, target, action, or dice shape is invalid")
  r.validateOutcome

/-- **A record that follows from its dice and modifiers.** -/
structure Valid (r : RawRollFacts) : Prop where
  sequence : r.sequence ≠ 0
  actorId : isValidOpaqueId r.actorId = true
  targetId : ∀ id ∈ r.targetId, isValidOpaqueId id = true
  actionId : ∀ id ∈ r.actionId, isValidOpaqueId id = true
  dice_ne : r.individualDice ≠ []
  dice : ∀ die ∈ r.individualDice, InRange die.sides die.value
  dice_le : r.individualDice.length ≤ maxU16
  kept_nodup : r.keptDieIndices.Nodup
  kept_lt : ∀ i ∈ r.keptDieIndices, i < r.individualDice.length
  sides : ∀ die ∈ r.individualDice, die.sides = r.dieSides
  mode : r.validateMode = .ok ()
  modifiers_nodup : (r.modifiers.map (·.sourceId)).Nodup
  modifierIds : ∀ m ∈ r.modifiers, isValidOpaqueId m.sourceId = true
  keptTotal : checkedSum minI32 maxI32 0 r.keptValues = some r.keptValues.sum
  modifierTotal : checkedSum minI32 maxI32 0 r.modifierValues = some r.modifierValues.sum
  fits : minI32 ≤ r.total ∧ r.total ≤ maxI32
  total : r.total = r.keptValues.sum + r.modifierValues.sum
  expression : r.expression = diceExpression r.individualDice.length r.dieSides r.modifierValues.sum
  natural : ∀ natural ∈ r.naturalD20,
    (r.keptDieIndices.head?.bind (r.individualDice[·]?)) = some ⟨20, natural⟩
  shape : r.ShapeOk
  outcome : r.validateOutcome = .ok ()

variable {r : RawRollFacts}

/-- The total check succeeds when nothing overflows and the total is the sum. -/
theorem totals_iff :
    (do checkedSum minI32 maxI32 (← checkedSum minI32 maxI32 0 r.keptValues)
          [← checkedSum minI32 maxI32 0 r.modifierValues]) = some r.total ↔
      checkedSum minI32 maxI32 0 r.keptValues = some r.keptValues.sum ∧
      checkedSum minI32 maxI32 0 r.modifierValues = some r.modifierValues.sum ∧
      (minI32 ≤ r.total ∧ r.total ≤ maxI32) ∧ r.total = r.keptValues.sum + r.modifierValues.sum := by
  constructor
  · intro h
    simp only [Option.bind_eq_bind, Option.bind_eq_some_iff] at h
    obtain ⟨d, hd, m, hm, h⟩ := h
    have hds := checkedSum_eq_some hd
    have hms := checkedSum_eq_some hm
    rw [Int.zero_add] at hds hms
    subst hds hms
    unfold checkedSum at h
    split at h
    · have ht := checkedSum_eq_some h
      rw [sum_nil, Int.add_zero] at ht
      refine ⟨hd, hm, ?_, ht⟩
      rw [ht]; assumption
    · cases h
  · rintro ⟨hd, hm, hfit, ht⟩
    rw [hd, hm]
    show checkedSum minI32 maxI32 r.keptValues.sum [r.modifierValues.sum] = _
    rw [checkedSum, if_pos (by rw [← ht]; exact hfit), checkedSum, ht]

theorem validate_eq_ok : r.validate = .ok () ↔ r.Valid := by
  have hopt (o : Option String) : (¬ ∃ id ∈ o, isValidOpaqueId id = false) ↔
      ∀ id ∈ o, isValidOpaqueId id = true := by
    simp only [not_exists, not_and, Bool.not_eq_false]
  have hdice : (¬ ∃ die ∈ r.individualDice, die.sides = 0 ∨ die.value = 0 ∨ die.value > die.sides) ↔
      ∀ die ∈ r.individualDice, InRange die.sides die.value := by
    simp only [not_exists, not_and]
    refine forall₂_congr fun die _ => ?_
    unfold InRange
    omega
  have hkept : (¬ ∃ i ∈ r.keptDieIndices, i ≥ r.individualDice.length) ↔
      ∀ i ∈ r.keptDieIndices, i < r.individualDice.length := by
    simp only [not_exists, not_and, Nat.not_le, ge_iff_le]
  have hsides : (¬ ∃ die ∈ r.individualDice, die.sides ≠ r.dieSides) ↔
      ∀ die ∈ r.individualDice, die.sides = r.dieSides := by
    simp only [not_exists, not_and, not_not]
  have hmods : (¬ ∃ m ∈ r.modifiers, isValidOpaqueId m.sourceId = false) ↔
      ∀ m ∈ r.modifiers, isValidOpaqueId m.sourceId = true := by
    simp only [not_exists, not_and, Bool.not_eq_false]
  have hnat : (¬ ∃ natural ∈ r.naturalD20,
      (r.keptDieIndices.head?.bind (r.individualDice[·]?)) ≠ some ⟨20, natural⟩) ↔
      ∀ natural ∈ r.naturalD20, (r.keptDieIndices.head?.bind (r.individualDice[·]?)) = some ⟨20, natural⟩ := by
    simp only [not_exists, not_and, not_not]
  simp only [validate, bind_eq_ok, exists_unit, rejectIf_eq_ok, okOr_eq_ok, not_or, not_not, hopt, hdice, hkept,
    hsides, hmods, hnat, totals_iff, Bool.not_eq_false, Bool.not_eq_true, Nat.not_lt]
  constructor
  · rintro ⟨⟨h₁, h₂, h₃, h₄, -, h₆, h₇⟩, h₈, ⟨h₉, h₁₀, h₁₁⟩, h₁₂, ⟨h₁₃, h₁₄⟩, ⟨h₁₅, h₁₆, h₁₇, h₁₈⟩, m, hm,
      h₁₉, h₂₀, h₂₁, h₂₂⟩
    obtain rfl : r.modifierValues.sum = m := Option.mem_unique h₁₆ hm
    exact ⟨h₁, h₂, h₃, h₄, h₆, h₇, h₈, h₉, h₁₀, h₁₁, h₁₂, h₁₃, h₁₄, h₁₅, h₁₆, h₁₇, h₁₈, h₁₉, h₂₀, h₂₁, h₂₂⟩
  · intro hv
    refine ⟨⟨hv.sequence, hv.actorId, hv.targetId, hv.actionId, ?_, hv.dice_ne, hv.dice⟩, hv.dice_le,
      ⟨hv.kept_nodup, hv.kept_lt, hv.sides⟩, hv.mode, ⟨hv.modifiers_nodup, hv.modifierIds⟩,
      ⟨hv.keptTotal, hv.modifierTotal, hv.fits, hv.total⟩, _, hv.modifierTotal, hv.expression, hv.natural,
      hv.shape, hv.outcome⟩
    rw [hv.expression]
    exact diceExpression_not_blank

end RawRollFacts

/-! ## Throwing dice -/

/-- What the engine asks of one throw. -/
structure RollRequest where
  purpose : EncounterRollPurpose
  actorId : String
  targetId : Option String
  actionId : Option String
  diceCount : Nat
  sides : Nat
  modifiers : List RollModifierFact
  comparison : Option RollComparison

namespace RollRequest

def modifierTotal (q : RollRequest) : Int := (q.modifiers.map (·.value.toInt)).sum

/-- The natural value of a single d20. -/
def naturalD20 (q : RollRequest) (faces : List Nat) : Option Nat :=
  if q.diceCount = 1 ∧ q.sides = 20 then faces.head? else none

def outcome (q : RollRequest) (natural : Option Nat) (total : Int) : EncounterResult RawRollOutcome :=
  match q.purpose, q.comparison, natural with
  | .attack, some target, some natural => .ok (RawRollFacts.attackOutcome natural total target.value)
  | .deathSave, some target, some natural => .ok (RawRollFacts.deathSaveOutcome natural total target.value)
  | .initiative, none, _ | .damage, none, _ => .ok .total
  | _, _, _ => .error (.invalidState "internal roll request has an invalid purpose or comparison")

/-- The record of a request answered with `faces`, ending in `outcome`. -/
def facts (q : RollRequest) (sequence : Nat) (faces : List Nat) (outcome : RawRollOutcome) :
    RawRollFacts where
  sequence := sequence
  purpose := q.purpose
  actorId := q.actorId
  targetId := q.targetId
  actionId := q.actionId
  expression := diceExpression q.diceCount q.sides q.modifierTotal
  mode := .normal
  individualDice := faces.map fun value => ⟨q.sides, value⟩
  keptDieIndices := List.range q.diceCount
  modifiers := q.modifiers
  naturalD20 := q.naturalD20 faces
  total := (faces.map (Int.ofNat ·)).sum + q.modifierTotal
  comparison := q.comparison
  outcome := outcome

end RollRequest

/-- Throw `n` dice of one size. -/
def rollDice (sides : Nat) : Nat → Rolling EncounterError (List Nat)
  | 0 => pure []
  | n + 1 => do
    let value ← Prog.question sides
    Prog.reject (value = 0 ∨ value > sides) (.invalidRoll sides value)
    let rest ← rollDice sides n
    return value :: rest

/-- Throw the dice of a request, build the record, check it, and append it to the rolls so far. -/
def performRoll (rolls : List RawRollFacts) (q : RollRequest) :
    Rolling EncounterError (RawRollFacts × List RawRollFacts) := do
  let faces ← rollDice q.sides q.diceCount
  let outcome ← Prog.lift (q.outcome (q.naturalD20 faces) ((faces.map (Int.ofNat ·)).sum + q.modifierTotal))
  Prog.reject (rolls.length ≥ maxU16) (.invalidState "too many rolls in one encounter resolution")
  let roll := q.facts (rolls.length + 1) faces outcome
  Prog.lift roll.validate
  return (roll, rolls ++ [roll])

/-! ## What a throw records -/

/-- The dice a transcript of `n` throws of one size shows. -/
theorem rollDice_returns {faces : List Nat} :
    Prog.Returns (rollDice sides n) t faces ↔
      faces.length = n ∧ (∀ v ∈ faces, InRange sides v) ∧ t = faces.map (sides, ·) := by
  induction n generalizing t faces with
  | zero =>
    simp only [rollDice, Prog.pure_eq, Prog.returns_ok, List.length_eq_zero_iff]
    constructor
    · rintro ⟨rfl, rfl⟩; exact ⟨rfl, by simp, rfl⟩
    · rintro ⟨rfl, -, rfl⟩; exact ⟨rfl, rfl⟩
  | succ n ih =>
    simp only [rollDice, Prog.question, Prog.ask_bind, Prog.ok_bind, Prog.returns_ask,
      Prog.returns_reject_bind]
    simp only [Prog.returns_bind, Prog.pure_eq, Prog.returns_ok, ih]
    constructor
    · rintro ⟨v, _, rfl, hv, t₁, _, rest, rfl, ⟨hlen, hr, rfl⟩, rfl, rfl⟩
      have hrange : InRange sides v := by unfold InRange; omega
      refine ⟨by simp [hlen], ?_, by simp⟩
      simpa using ⟨hrange, hr⟩
    · rintro ⟨hlen, hr, rfl⟩
      obtain ⟨v, rest, rfl⟩ := List.exists_cons_of_length_eq_add_one hlen
      have hrange : InRange sides v := hr v (by simp)
      unfold InRange at hrange
      exact ⟨v, _, rfl, by omega, _, [], rest, by simp,
        ⟨by simpa using hlen, fun w hw => hr w (by simp [hw]), rfl⟩, rfl, rfl⟩

theorem rollDice_always {Q : List Nat → Prop} :
    Prog.Always InRange (rollDice sides n) Q ↔
      ∀ faces : List Nat, faces.length = n → (∀ v ∈ faces, InRange sides v) → Q faces := by
  induction n generalizing Q with
  | zero =>
    simp only [rollDice, Prog.pure_eq, Prog.always_ok, List.length_eq_zero_iff]
    exact ⟨fun h faces hf _ => hf ▸ h, fun h => h [] rfl (by simp)⟩
  | succ n ih =>
    simp only [rollDice, Prog.question, Prog.ask_bind, Prog.ok_bind, Prog.always_ask, Prog.always_bind,
      Prog.always_reject, Prog.pure_eq, Prog.always_ok, ih]
    constructor
    · intro h faces hlen hr
      obtain ⟨v, rest, rfl⟩ := List.exists_cons_of_length_eq_add_one hlen
      exact (h v (hr v (by simp))).2 rest (by simpa using hlen) fun w hw => hr w (by simp [hw])
    · intro h v hv
      refine ⟨by unfold InRange at hv; omega, fun rest hlen hr => h (v :: rest) (by simp [hlen]) ?_⟩
      simpa using ⟨hv, hr⟩

namespace RollRequest

/-- Purposes that the engine throws itself, with the shape each demands. -/
def ShapeOk (q : RollRequest) : Prop :=
  match q.purpose with
  | .initiative => q.targetId = none ∧ q.actionId = none ∧ q.diceCount = 1 ∧ q.sides = 20 ∧ q.comparison = none
  | .attack => q.targetId.isSome = true ∧ q.actionId.isSome = true ∧ q.diceCount = 1 ∧ q.sides = 20 ∧
      ∃ v, q.comparison = some ⟨.armorClass, v⟩
  | .damage => q.targetId.isSome = true ∧ q.actionId.isSome = true ∧ q.sides ≠ 20 ∧ q.comparison = none
  | .deathSave => q.targetId = some q.actorId ∧ q.actionId = none ∧ q.diceCount = 1 ∧ q.sides = 20 ∧
      ∃ v, q.comparison = some ⟨.deathSaveDifficultyClass, v⟩
  | _ => False

/-- **A request whose record is valid whatever the dice show.** -/
structure WellFormed (q : RollRequest) : Prop where
  actorId : isValidOpaqueId q.actorId = true
  targetId : ∀ id ∈ q.targetId, isValidOpaqueId id = true
  actionId : ∀ id ∈ q.actionId, isValidOpaqueId id = true
  count : q.diceCount = 1 ∨ q.diceCount = 2
  sides : 1 ≤ q.sides ∧ q.sides ≤ 20
  modifiers_le : q.modifiers.length ≤ 4
  modifiers_nodup : (q.modifiers.map (·.sourceId)).Nodup
  modifierIds : ∀ m ∈ q.modifiers, isValidOpaqueId m.sourceId = true
  shape : q.ShapeOk

end RollRequest

theorem int16_bound (v : Int16) : -32768 ≤ v.toInt ∧ v.toInt ≤ 32768 := by
  have h₁ := v.le_toInt
  have h₂ := v.toInt_lt
  omega

/-- The modifiers of one roll are few and small. -/
theorem modifiers_sum_bound {ms : List RollModifierFact} (h : ms.length ≤ 4) :
    checkedSum minI32 maxI32 0 (ms.map (·.value.toInt)) = some (ms.map (·.value.toInt)).sum ∧
      -131072 ≤ (ms.map (·.value.toInt)).sum ∧ (ms.map (·.value.toInt)).sum ≤ 131072 := by
  have hb : ∀ v ∈ ms.map (·.value.toInt), -32768 ≤ v ∧ v ≤ 32768 := by
    intro v hv
    obtain ⟨m, -, rfl⟩ := mem_map.mp hv
    exact int16_bound m.value
  refine ⟨?_, ?_⟩
  · have := @checkedSum_of_bound minI32 maxI32 0 _ _ hb (by omega)
      (by simp only [minI32, length_map]; omega) (by simp only [maxI32, length_map]; omega)
    simpa using this
  · have hsum : ∀ l : List Int, (∀ v ∈ l, -32768 ≤ v ∧ v ≤ 32768) →
        -32768 * (l.length : Int) ≤ l.sum ∧ l.sum ≤ 32768 * (l.length : Int) := by
      intro l hl
      induction l with
      | nil => simp
      | cons a l ih =>
        have ha := hl a (by simp)
        have := ih fun v hv => hl v (by simp [hv])
        simp only [sum_cons, List.length_cons]
        push_cast
        omega
    have := hsum _ hb
    rw [length_map] at this
    omega

/-- Facing dice of one size: the record of their values is the list of faces. -/
theorem keptValues_range {sides : Nat} {faces : List Nat} :
    (List.range faces.length).map (fun i =>
      (((faces.map fun v => (⟨sides, v⟩ : RawDieFact))[i]?.map (·.value)).getD 0 : Nat)) = faces := by
  apply List.ext_getElem
  · simp
  · intro i h₁ h₂
    simp [h₂]

namespace RollRequest

variable {q : RollRequest}

variable {faces : List Nat}

/-- The outcome of a well-formed request is determined. -/
theorem WellFormed.outcome_ok (hq : q.WellFormed) (hlen : faces.length = q.diceCount)
    (total : Int) : ∃ o, q.outcome (q.naturalD20 faces) total = .ok o := by
  have hshape := hq.shape
  unfold ShapeOk at hshape
  unfold outcome naturalD20
  split at hshape <;> rename_i hp
  · simp [hp, hshape.2.2.2.2]
  · obtain ⟨-, -, hc, hs, v, hv⟩ := hshape
    obtain ⟨face, rfl⟩ := length_eq_one_iff.mp (hlen.trans hc)
    simp [hp, hc, hs, hv]
  · simp [hp, hshape.2.2.2]
  · obtain ⟨-, -, hc, hs, v, hv⟩ := hshape
    obtain ⟨face, rfl⟩ := length_eq_one_iff.mp (hlen.trans hc)
    simp [hp, hc, hs, hv]
  · exact hshape.elim

/-- **The record of a well-formed request with in-range faces is valid.** -/
theorem WellFormed.facts_valid (hq : q.WellFormed) {sequence : Nat} (hseq : sequence ≠ 0)
    (hlen : faces.length = q.diceCount) (hr : ∀ v ∈ faces, InRange q.sides v) {o : RawRollOutcome}
    (ho : q.outcome (q.naturalD20 faces) ((faces.map (Int.ofNat ·)).sum + q.modifierTotal) = .ok o) :
    (q.facts sequence faces o).Valid := by
  have hcount : faces.length = 1 ∨ faces.length = 2 := hlen ▸ hq.count
  have hne : faces ≠ [] := by rintro rfl; simp at hcount
  have hsides := hq.sides
  obtain ⟨hmodsum, hmodlo, hmodhi⟩ := modifiers_sum_bound hq.modifiers_le
  have hkept : (q.facts sequence faces o).keptValues = faces.map (Int.ofNat ·) := by
    have := @keptValues_range q.sides faces
    rw [hlen] at this
    unfold RawRollFacts.keptValues facts
    conv_rhs => rw [← this]
    rw [List.map_map]
    rfl
  have hfaces : 0 ≤ (faces.map (Int.ofNat ·)).sum ∧ (faces.map (Int.ofNat ·)).sum ≤ 40 := by
    rcases hcount with h1 | h2
    · obtain ⟨a, rfl⟩ := length_eq_one_iff.mp h1
      have ha := (hr a (by simp)).2
      simp only [List.map_cons, List.map_nil, sum_cons, sum_nil, Int.ofNat_eq_natCast]
      omega
    · obtain ⟨a, b, rfl⟩ := List.length_eq_two.mp h2
      have ha := (hr a (by simp)).2
      have hb := (hr b (by simp)).2
      simp only [List.map_cons, List.map_nil, sum_cons, sum_nil, Int.ofNat_eq_natCast]
      omega
  have hdie : (q.facts sequence faces o).dieSides = q.sides := by
    obtain ⟨a, rest, rfl⟩ := List.exists_cons_of_ne_nil hne
    rfl
  refine
    { sequence := hseq, actorId := hq.actorId, targetId := hq.targetId, actionId := hq.actionId
      dice_ne := by simpa [facts] using hne
      dice := ?_, dice_le := ?_, kept_nodup := List.nodup_range, kept_lt := ?_, sides := ?_, mode := ?_
      modifiers_nodup := hq.modifiers_nodup, modifierIds := hq.modifierIds
      keptTotal := ?_, modifierTotal := hmodsum, fits := ?_, total := by rw [hkept]; rfl
      expression := ?_, natural := ?_, shape := ?_, outcome := ?_ }
  · intro die hd
    obtain ⟨v, hv, rfl⟩ := mem_map.mp hd
    exact hr v hv
  · show (faces.map _).length ≤ maxU16
    rw [length_map, maxU16]; omega
  · intro i hi
    show i < (faces.map _).length
    rw [length_map, hlen]
    exact List.mem_range.mp hi
  · intro die hd
    obtain ⟨v, -, rfl⟩ := mem_map.mp hd
    exact hdie.symm
  · show rejectIf (List.range q.diceCount ≠ List.range (faces.map _).length) _ = .ok ()
    rw [rejectIf_eq_ok, not_not, length_map, hlen]
  · rw [hkept]
    have hb : ∀ v ∈ faces.map (Int.ofNat ·), -20 ≤ v ∧ v ≤ 20 := by
      intro v hv
      obtain ⟨n, hn, rfl⟩ := mem_map.mp hv
      have := (hr n hn).2
      simp only [Int.ofNat_eq_natCast]; omega
    have := @checkedSum_of_bound minI32 maxI32 0 _ _ hb (by omega)
      (by simp only [minI32, length_map]; omega) (by simp only [maxI32, length_map]; omega)
    simpa using this
  · show minI32 ≤ (faces.map (Int.ofNat ·)).sum + q.modifierTotal ∧
      (faces.map (Int.ofNat ·)).sum + q.modifierTotal ≤ maxI32
    unfold modifierTotal minI32 maxI32
    omega
  · show diceExpression q.diceCount q.sides q.modifierTotal = _
    rw [hdie, ← hlen]
    show _ = diceExpression (faces.map _).length _ _
    rw [length_map]; rfl
  · intro n hn
    have hn' : q.naturalD20 faces = some n := hn
    unfold naturalD20 at hn'
    split at hn'
    · rename_i hd20
      obtain ⟨a, rest, rfl⟩ := List.exists_cons_of_ne_nil hne
      show (List.range q.diceCount).head?.bind _ = _
      rw [hd20.1]
      obtain rfl : a = n := by simpa using hn'
      simp [facts, hd20.2]
    · cases hn'
  · have hshape := hq.shape
    unfold ShapeOk at hshape
    unfold RawRollFacts.ShapeOk
    have hpurpose : (q.facts sequence faces o).purpose = q.purpose := rfl
    rw [hpurpose]
    split at hshape <;> rename_i hp
    · obtain ⟨h₁, h₂, hc, hs, -⟩ := hshape
      obtain ⟨a, rfl⟩ := length_eq_one_iff.mp (hlen.trans hc)
      rw [hp]
      exact ⟨h₁, h₂, rfl, by simp [facts, naturalD20, hc, hs]⟩
    · obtain ⟨h₁, h₂, hc, hs, -⟩ := hshape
      obtain ⟨a, rfl⟩ := length_eq_one_iff.mp (hlen.trans hc)
      rw [hp]
      exact ⟨h₁, h₂, .inl rfl, by simp [facts, naturalD20, hc, hs]⟩
    · obtain ⟨h₁, h₂, hs, -⟩ := hshape
      rw [hp]
      refine ⟨h₁, h₂, ?_, by simp [facts, naturalD20, hs]⟩
      simpa [facts] using hcount
    · obtain ⟨h₁, h₂, hc, hs, -⟩ := hshape
      obtain ⟨a, rfl⟩ := length_eq_one_iff.mp (hlen.trans hc)
      rw [hp]
      exact ⟨h₁, h₂, rfl, by simp [facts, naturalD20, hc, hs]⟩
    · exact hshape.elim
  · have hshape := hq.shape
    unfold ShapeOk at hshape
    unfold outcome at ho
    unfold RawRollFacts.validateOutcome
    have hfields : (q.facts sequence faces o).purpose = q.purpose ∧
        (q.facts sequence faces o).comparison = q.comparison ∧
        (q.facts sequence faces o).naturalD20 = q.naturalD20 faces ∧
        (q.facts sequence faces o).outcome = o ∧
        (q.facts sequence faces o).total = (faces.map (Int.ofNat ·)).sum + q.modifierTotal :=
      ⟨rfl, rfl, rfl, rfl, rfl⟩
    obtain ⟨hfp, hfc, hfn, hfo, hft⟩ := hfields
    rw [hfp, hfc, hfn, hfo, hft]
    split at hshape <;> rename_i hp
    · simp only [hp, hshape.2.2.2.2] at ho ⊢
      simpa using ho.symm
    · obtain ⟨-, -, hc, hs, v, hv⟩ := hshape
      obtain ⟨a, rfl⟩ := length_eq_one_iff.mp (hlen.trans hc)
      simp only [hp, hv, naturalD20, hc, hs, and_self, if_true, List.head?_cons] at ho ⊢
      simpa using ho.symm
    · simp only [hp, hshape.2.2.2] at ho ⊢
      simpa using ho.symm
    · obtain ⟨-, -, hc, hs, v, hv⟩ := hshape
      obtain ⟨a, rfl⟩ := length_eq_one_iff.mp (hlen.trans hc)
      simp only [hp, hv, naturalD20, hc, hs, and_self, if_true, List.head?_cons] at ho ⊢
      simpa using ho.symm
    · exact hshape.elim

end RollRequest

variable {q : RollRequest}

/-- **What a throw does.** The transcript is its dice, the record is built from them, and it is valid. -/
theorem performRoll_returns {rolls rolls' : List RawRollFacts}
    {roll : RawRollFacts} :
    Prog.Returns (performRoll rolls q) t (roll, rolls') ↔
      ∃ faces o, faces.length = q.diceCount ∧ (∀ v ∈ faces, InRange q.sides v) ∧
        t = faces.map (q.sides, ·) ∧
        q.outcome (q.naturalD20 faces) ((faces.map (Int.ofNat ·)).sum + q.modifierTotal) = .ok o ∧
        rolls.length < maxU16 ∧ roll = q.facts (rolls.length + 1) faces o ∧ roll.Valid ∧
        rolls' = rolls ++ [roll] := by
  rw [performRoll, Prog.returns_bind]
  simp only [rollDice_returns, Prog.returns_lift_bind, Prog.returns_reject_bind, Prog.pure_eq,
    Prog.returns_ok, RawRollFacts.validate_eq_ok, exists_unit, Prod.mk.injEq, Nat.not_le, ge_iff_le]
  constructor
  · rintro ⟨_, _, faces, rfl, ⟨hlen, hr, rfl⟩, o, ho, hlt, hv, rfl, rfl, rfl⟩
    exact ⟨faces, o, hlen, hr, by simp, ho, hlt, rfl, hv, rfl⟩
  · rintro ⟨faces, o, hlen, hr, rfl, ho, hlt, rfl, hv, rfl⟩
    exact ⟨_, [], faces, by simp, ⟨hlen, hr, rfl⟩, o, ho, hlt, hv, rfl, rfl, rfl⟩

/-- **A well-formed throw never fails.** -/
theorem performRoll_always {rolls : List RawRollFacts} (hq : q.WellFormed)
    (hlt : rolls.length < maxU16) {Q : RawRollFacts × List RawRollFacts → Prop}
    (hQ : ∀ faces o, faces.length = q.diceCount → (∀ v ∈ faces, InRange q.sides v) →
      q.outcome (q.naturalD20 faces) ((faces.map (Int.ofNat ·)).sum + q.modifierTotal) = .ok o →
      (q.facts (rolls.length + 1) faces o).Valid →
      Q (q.facts (rolls.length + 1) faces o, rolls ++ [q.facts (rolls.length + 1) faces o])) :
    Prog.Always InRange (performRoll rolls q) Q := by
  unfold performRoll
  rw [Prog.always_bind, rollDice_always]
  intro faces hlen hr
  obtain ⟨o, ho⟩ := hq.outcome_ok hlen ((faces.map (Int.ofNat ·)).sum + q.modifierTotal)
  have hv := hq.facts_valid (Nat.succ_ne_zero rolls.length) hlen hr ho
  simp only [Prog.always_bind, Prog.always_lift, Prog.always_reject, Prog.pure_eq, Prog.always_ok]
  exact ⟨o, ho, by omega, (), RawRollFacts.validate_eq_ok.mpr hv, hQ faces o hlen hr ho hv⟩

end ManchesterArcana.Encounter
