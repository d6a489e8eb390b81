import Mathlib.Algebra.BigOperators.Group.List.Basic
import ManchesterArcana.Encounter.Rolls

/-!
# `Encounter.Alteration` — what the check on a raw roll notices

A raw roll says most things twice. `RawRollFacts.Recomputed` is what a valid record repeats of its dice, mode
and modifiers. `Alteration` rewrites one field of a record and leaves the others alone; `Valid.altered_iff`
says exactly which alterations of a valid record the check lets through, and `Unnoticed` lists them: what is
only said once.
-/

namespace ManchesterArcana.Encounter

open Effect Rules
open List (length_set map_set map_singleton mem_set)

/-! ## Expressions tell the dice -/

/-- The size of the dice is read off the expression. -/
theorem diceExpression_sides {count sides sides' : Nat} {modifier : Int}
    (h : diceExpression count sides modifier = diceExpression count sides' modifier) : sides = sides' := by
  have hdice (s : String) (heq : toString count ++ ("d" ++ (toString sides ++ s)) =
      toString count ++ ("d" ++ (toString sides' ++ s))) : sides = sides' := by
    have hrest := (String.append_right_inj _).mp ((String.append_right_inj _).mp heq)
    exact toString_nat_injective ((String.append_left_inj s).mp hrest)
  unfold diceExpression at h
  dsimp only at h
  split at h
  · simp only [String.append_assoc] at h
    exact hdice _ h
  · split at h
    · simp only [String.append_assoc] at h
      exact hdice _ h
    · exact toString_nat_injective ((String.append_right_inj _).mp h)

theorem RawDieFact.eq_of {a b : RawDieFact} (hsides : a.sides = b.sides) (hvalue : a.value = b.value) : a = b := by
  obtain ⟨_, _⟩ := a
  obtain ⟨_, _⟩ := b
  exact congrArg₂ RawDieFact.mk hsides hvalue

namespace RawRollFacts

variable {r : RawRollFacts}

/-! ## What a valid record repeats -/

/-- The values that count: all of them, or the better or the worse of two. -/
def countedValues (r : RawRollFacts) : List Nat :=
  let values := r.individualDice.map (·.value)
  match r.mode with
  | .normal => values
  | .advantage => values.max?.toList
  | .disadvantage => values.min?.toList

/-- The outcome that natural die, total and comparison call for. -/
def verdict (r : RawRollFacts) : RawRollOutcome :=
  match r.purpose, r.comparison, r.naturalD20 with
  | .attack, some target, some natural => attackOutcome natural r.total target.value
  | .deathSave, some target, some natural => deathSaveOutcome natural r.total target.value
  | _, _, _ => .total

/-- Rolls that are looked at die by die. -/
def isD20Test (r : RawRollFacts) : Bool :=
  decide (r.purpose = .initiative) || decide (r.purpose = .attack) || decide (r.purpose = .deathSave)

/-- **What a record repeats** of its dice, mode and modifiers. -/
structure Recomputed (r : RawRollFacts) : Prop where
  kept : r.keptValues = r.countedValues.map (Int.ofNat ·)
  natural : r.naturalD20 = if r.isD20Test then r.countedValues.head? else none
  total : r.total = (r.countedValues.map (Int.ofNat ·)).sum + r.modifierValues.sum
  expression : r.expression = diceExpression r.individualDice.length r.dieSides r.modifierValues.sum
  outcome : r.outcome = r.verdict

theorem validateMode_eq_ok : r.validateMode = .ok () ↔
    (r.mode = .normal ∧ r.keptDieIndices = List.range r.individualDice.length) ∨
      (r.mode ≠ .normal ∧ ∃ first second index, r.individualDice = [first, second] ∧ r.keptDieIndices = [index] ∧
        first.sides = 20 ∧ [first, second][index]?.map (·.value) =
          some (if r.mode = .advantage then max first.value second.value else min first.value second.value)) := by
  unfold validateMode
  constructor
  · intro h
    split at h
    case h_1 hmode => exact .inl ⟨hmode, not_not.mp (rejectIf_eq_ok.mp h)⟩
    case h_2 hmode =>
      refine .inr ⟨hmode, ?_⟩
      split at h
      · rename_i first second index hdice hkept
        obtain ⟨hsides, hvalue⟩ := seq_eq_ok.mp h
        exact ⟨first, second, index, hdice, hkept, not_not.mp (rejectIf_eq_ok.mp hsides),
          not_not.mp (rejectIf_eq_ok.mp hvalue)⟩
      · cases h
  · rintro (⟨hmode, hkept⟩ | ⟨hmode, first, second, index, hdice, hkept, hsides, hvalue⟩)
    · rw [hmode]
      exact rejectIf_eq_ok.mpr (not_not.mpr hkept)
    · rw [hdice, hkept]
      split
      case h_1 hnormal => exact absurd hnormal hmode
      case h_2 => exact seq_eq_ok.mpr ⟨rejectIf_eq_ok.mpr (not_not.mpr hsides),
        rejectIf_eq_ok.mpr (not_not.mpr hvalue)⟩

/-- Where all dice are kept, their values are the values of the dice. -/
theorem keptValues_of_all (h : r.keptDieIndices = List.range r.individualDice.length) :
    r.keptValues = r.individualDice.map fun die => Int.ofNat die.value := by
  unfold keptValues
  rw [h]
  apply List.ext_getElem
  · simp
  · intro i h₁ h₂
    have hi : i < r.individualDice.length := by simpa using h₂
    simp [hi]

/-- **The dice of a valid record**: all kept, or one of two d20. -/
theorem Valid.dice_cases (hv : r.Valid) :
    (r.mode = .normal ∧ r.keptDieIndices = List.range r.individualDice.length) ∨
      (r.mode ≠ .normal ∧ ∃ first second, r.individualDice = [first, second] ∧ first.sides = 20 ∧
        second.sides = 20 ∧
        ((r.keptDieIndices = [0] ∧ r.keptValues = [(first.value : Int)] ∧
            first.value = if r.mode = .advantage then max first.value second.value
              else min first.value second.value) ∨
          (r.keptDieIndices = [1] ∧ r.keptValues = [(second.value : Int)] ∧
            second.value = if r.mode = .advantage then max first.value second.value
              else min first.value second.value))) := by
  rcases validateMode_eq_ok.mp hv.mode with h | ⟨hmode, first, second, index, hdice, hkept, hsides, hvalue⟩
  case inl => exact .inl h
  case inr =>
    have hsecond : second.sides = 20 := by
      have := hv.sides second (by rw [hdice]; simp)
      rw [this]
      unfold dieSides
      rw [hdice]
      exact hsides
    refine .inr ⟨hmode, first, second, hdice, hsides, hsecond, ?_⟩
    have hindex : index < 2 := by
      have := hv.kept_lt index (by rw [hkept]; simp)
      rwa [hdice] at this
    unfold keptValues
    rw [hdice, hkept]
    obtain rfl | rfl : index = 0 ∨ index = 1 := by omega
    · exact .inl ⟨rfl, rfl, Option.some.inj hvalue⟩
    · exact .inr ⟨rfl, rfl, Option.some.inj hvalue⟩

theorem Valid.keptValues_eq (hv : r.Valid) : r.keptValues = r.countedValues.map (Int.ofNat ·) := by
  unfold countedValues
  rcases hv.dice_cases with ⟨hmode, hkept⟩ | ⟨hmode, first, second, hdice, -, -, hkept⟩
  · rw [keptValues_of_all hkept, hmode, List.map_map]
    rfl
  · have hvalues : r.keptValues = [((if r.mode = .advantage then max first.value second.value
        else min first.value second.value : Nat) : Int)] := by
      rcases hkept with ⟨-, hvalues, hbest⟩ | ⟨-, hvalues, hbest⟩ <;> rw [hvalues, ← hbest]
    rw [hvalues, hdice]
    cases hm : r.mode with
    | normal => exact absurd hm hmode
    | advantage => simp [List.max?]
    | disadvantage => simp [List.min?]

/-- The natural die is the kept die of a d20 test, and no other roll has one. -/
theorem Valid.natural_eq (hv : r.Valid) : r.naturalD20 = if r.isD20Test then r.countedValues.head? else none := by
  have hshape := hv.shape
  unfold ShapeOk at hshape
  have hhead (h : r.naturalD20.isSome = true) : r.naturalD20 = r.countedValues.head? := by
    obtain ⟨natural, hnatural⟩ := Option.isSome_iff_exists.mp h
    have hkept := hv.natural natural hnatural
    obtain ⟨index, hindex, hdie⟩ := Option.bind_eq_some_iff.mp hkept
    obtain ⟨rest, hrest⟩ : ∃ rest, r.keptDieIndices = index :: rest := by
      cases hlist : r.keptDieIndices with
      | nil => rw [hlist] at hindex; cases hindex
      | cons i rest => rw [hlist] at hindex; exact ⟨rest, by rw [Option.some.inj hindex]⟩
    have hvalues := hv.keptValues_eq
    unfold keptValues at hvalues
    rw [hrest, List.map_cons, hdie] at hvalues
    rw [hnatural]
    cases hcounted : r.countedValues with
    | nil => rw [hcounted] at hvalues; cases hvalues
    | cons v vs =>
      rw [hcounted, List.map_cons] at hvalues
      have heq : ((natural : Nat) : Int) = (v : Int) := (List.cons.inj hvalues).1
      rw [List.head?_cons, Int.ofNat_inj.mp heq]
  unfold isD20Test
  split at hshape <;> rename_i hp <;> rw [hp]
  · exact hhead hshape.2.2.2
  · exact hhead hshape.2.2.2
  · exact hshape.2.2.2
  · exact hshape.2.2.2
  · exact hshape.2.2.2
  · exact hshape.2.2.2
  · exact hhead hshape.2.2.2

/-- Comparison and outcome of a roll, by its purpose. -/
def OutcomeOk (r : RawRollFacts) : Prop :=
  match r.purpose with
  | .attack => ∃ value natural, r.comparison = some ⟨.armorClass, value⟩ ∧ r.naturalD20 = some natural ∧
      r.outcome = attackOutcome natural r.total value
  | .deathSave => ∃ value natural, r.comparison = some ⟨.deathSaveDifficultyClass, value⟩ ∧
      r.naturalD20 = some natural ∧ r.outcome = deathSaveOutcome natural r.total value
  | _ => r.comparison = none ∧ r.outcome = .total

theorem validateOutcome_eq_ok : r.validateOutcome = .ok () ↔ r.OutcomeOk := by
  unfold validateOutcome OutcomeOk
  obtain ⟨sequence, purpose, actorId, targetId, actionId, expression, mode, dice, kept, modifiers, natural, total,
    comparison, outcome⟩ := r
  dsimp only
  cases purpose <;> rcases comparison with _ | ⟨_ | _, value⟩ <;> rcases natural with _ | natural <;>
    simp [rejectIf_eq_ok]

theorem OutcomeOk.verdict (h : r.OutcomeOk) : r.outcome = r.verdict := by
  unfold OutcomeOk at h
  unfold RawRollFacts.verdict
  split at h
  case h_1 hp =>
    obtain ⟨value, natural, hc, hn, ho⟩ := h
    rw [hp, hc, hn, ho]
  case h_2 hp =>
    obtain ⟨value, natural, hc, hn, ho⟩ := h
    rw [hp, hc, hn, ho]
  case h_3 hattack hdeath =>
    rw [h.1, h.2]
    cases r.purpose <;> rfl

/-- **A valid record repeats what its dice say.** -/
theorem Valid.recomputed (hv : r.Valid) : r.Recomputed where
  kept := hv.keptValues_eq
  natural := hv.natural_eq
  total := by rw [← hv.keptValues_eq]; exact hv.total
  expression := hv.expression
  outcome := (validateOutcome_eq_ok.mp hv.outcome).verdict

end RawRollFacts

/-! ## Altering one field -/

/-- One field of a record, and what is written there instead. -/
inductive Alteration where
  | die (index : Nat) (die : RawDieFact)
  | modifier (index : Nat) (modifier : RollModifierFact)
  | kept (indices : List Nat)
  | natural (natural : Option Nat)
  | expression (expression : String)
  | total (total : Int)
  | target (targetId : Option String)
  | comparison (comparison : Option RollComparison)
  | outcome (outcome : RawRollOutcome)

namespace RawRollFacts

/-- The record with one field altered. -/
def altered (r : RawRollFacts) : Alteration → RawRollFacts
  | .die index die => { r with individualDice := r.individualDice.set index die }
  | .modifier index modifier => { r with modifiers := r.modifiers.set index modifier }
  | .kept indices => { r with keptDieIndices := indices }
  | .natural natural => { r with naturalD20 := natural }
  | .expression expression => { r with expression }
  | .total total => { r with total }
  | .target targetId => { r with targetId }
  | .comparison comparison => { r with comparison }
  | .outcome outcome => { r with outcome }

/-- **What a record says only once.** A die that is not kept and would not be; the name of a modifier; which of
    two equal dice is kept; whom an attack or a spell was aimed at; the number to beat, as long as the verdict
    stays. -/
def Unnoticed (r : RawRollFacts) : Alteration → Prop
  | .die index die => r.mode ≠ .normal ∧ index ∉ r.keptDieIndices ∧ die.sides = 20 ∧ InRange 20 die.value ∧
      ∀ kept ∈ r.keptValues, if r.mode = .advantage then (die.value : Int) ≤ kept else kept ≤ (die.value : Int)
  | .modifier index modifier => r.modifiers[index]?.map (·.value) = some modifier.value ∧
      isValidOpaqueId modifier.sourceId = true ∧ ((r.modifiers.set index modifier).map (·.sourceId)).Nodup
  | .kept indices => r.mode ≠ .normal ∧ ∃ index, indices = [index] ∧ index < 2 ∧
      (r.altered (.kept indices)).keptValues = r.keptValues
  | .target targetId => (r.purpose = .attack ∨ r.purpose = .damage ∨ r.purpose = .sleepHitPoints) ∧
      ∃ id, targetId = some id ∧ isValidOpaqueId id = true
  | .comparison comparison => ∃ target target', r.comparison = some target ∧ comparison = some target' ∧
      target'.kind = target.kind ∧ (r.altered (.comparison comparison)).verdict = r.verdict
  | .natural _ | .expression _ | .total _ | .outcome _ => False

variable {r : RawRollFacts}

/-- Both records agree on what the check sums up. -/
theorem Valid.sums_eq {r' : RawRollFacts} (hv : r.Valid) (hv' : r'.Valid) (htotal : r'.total = r.total) :
    r'.keptValues.sum + r'.modifierValues.sum = r.keptValues.sum + r.modifierValues.sum := by
  rw [← hv.total, ← hv'.total, htotal]

theorem Valid.altered_total (hv : r.Valid) {total : Int} (hv' : (r.altered (.total total)).Valid) :
    r.altered (.total total) = r := by
  have htotal : total = r.total := hv'.total.trans hv.total.symm
  subst htotal
  rfl

theorem Valid.altered_expression (hv : r.Valid) {expression : String}
    (hv' : (r.altered (.expression expression)).Valid) : r.altered (.expression expression) = r := by
  have hexpression : expression = r.expression := hv'.expression.trans hv.expression.symm
  subst hexpression
  rfl

theorem Valid.altered_natural (hv : r.Valid) {natural : Option Nat}
    (hv' : (r.altered (.natural natural)).Valid) : r.altered (.natural natural) = r := by
  have hnatural : natural = r.naturalD20 := hv'.natural_eq.trans hv.natural_eq.symm
  subst hnatural
  rfl

theorem Valid.altered_outcome (hv : r.Valid) {outcome : RawRollOutcome}
    (hv' : (r.altered (.outcome outcome)).Valid) : r.altered (.outcome outcome) = r := by
  have hverdict : (r.altered (.outcome outcome)).verdict = r.verdict := rfl
  have houtcome : outcome = r.outcome :=
    (validateOutcome_eq_ok.mp hv'.outcome).verdict.trans
      (hverdict.trans (validateOutcome_eq_ok.mp hv.outcome).verdict.symm)
  subst houtcome
  rfl

/-- Another target is let through where any target would do. -/
theorem Valid.altered_target (hv : r.Valid) {targetId : Option String} (hne : r.altered (.target targetId) ≠ r) :
    (r.altered (.target targetId)).Valid ↔ r.Unnoticed (.target targetId) := by
  have htarget : targetId ≠ r.targetId := by
    rintro rfl
    exact hne rfl
  have hshape := hv.shape
  constructor
  · intro hv'
    have hshape' := hv'.shape
    unfold ShapeOk at hshape hshape'
    have hsome (h : targetId.isSome = true) : ∃ id, targetId = some id ∧ isValidOpaqueId id = true := by
      obtain ⟨id, hid⟩ := Option.isSome_iff_exists.mp h
      exact ⟨id, hid, hv'.targetId id hid⟩
    have hp' : (r.altered (.target targetId)).purpose = r.purpose := rfl
    rw [hp'] at hshape'
    cases hp : r.purpose <;> rw [hp] at hshape hshape'
    case initiative | healing | hitDie | deathSave => exact absurd (hshape'.1.trans hshape.1.symm) htarget
    case attack => exact ⟨.inl hp, hsome hshape'.1⟩
    case damage => exact ⟨.inr (.inl hp), hsome hshape'.1⟩
    case sleepHitPoints => exact ⟨.inr (.inr hp), hsome hshape'.1⟩
  · rintro ⟨hp, id, rfl, hid⟩
    have hshape' : (r.altered (.target (some id))).ShapeOk := by
      unfold ShapeOk at hshape ⊢
      have hp' : (r.altered (.target (some id))).purpose = r.purpose := rfl
      rw [hp']
      rcases hp with hp | hp | hp <;> rw [hp] at hshape ⊢ <;> exact ⟨rfl, hshape.2⟩
    exact { hv with
      targetId := fun _ h => by rw [← Option.some.inj (Option.mem_def.mp h)]; exact hid
      shape := hshape' }

/-- Another number to beat is let through where the verdict stays. -/
theorem Valid.altered_comparison (hv : r.Valid) {comparison : Option RollComparison}
    (hne : r.altered (.comparison comparison) ≠ r) :
    (r.altered (.comparison comparison)).Valid ↔ r.Unnoticed (.comparison comparison) := by
  have hcomparison : comparison ≠ r.comparison := by
    rintro rfl
    exact hne rfl
  have hok := validateOutcome_eq_ok.mp hv.outcome
  constructor
  · intro hv'
    have hok' := validateOutcome_eq_ok.mp hv'.outcome
    have hsame : (r.altered (.comparison comparison)).verdict = r.verdict := hok'.verdict.symm.trans hok.verdict
    unfold OutcomeOk at hok hok'
    have hp' : (r.altered (.comparison comparison)).purpose = r.purpose := rfl
    rw [hp'] at hok'
    cases hp : r.purpose <;> rw [hp] at hok hok'
    case attack | deathSave =>
      obtain ⟨value, natural, hc, -⟩ := hok
      obtain ⟨value', natural', hc', -⟩ := hok'
      exact ⟨_, _, hc, hc', rfl, hsame⟩
    case initiative | damage | healing | hitDie | sleepHitPoints =>
      exact absurd (hok'.1.trans hok.1.symm) hcomparison
  · rintro ⟨⟨kind, value⟩, ⟨kind', value'⟩, hc, rfl, hkind, hsame⟩
    obtain rfl : kind' = kind := hkind
    refine { hv with outcome := validateOutcome_eq_ok.mpr ?_ }
    have hverdict := hok.verdict
    rw [← hsame] at hverdict
    unfold OutcomeOk at hok ⊢
    have hp' : (r.altered (.comparison (some ⟨kind', value'⟩))).purpose = r.purpose := rfl
    rw [hp']
    cases hp : r.purpose <;> rw [hp] at hok
    case attack | deathSave =>
      obtain ⟨value'', natural, hc'', hn, -⟩ := hok
      rw [hc] at hc''
      obtain ⟨rfl, -⟩ := RollComparison.mk.inj (Option.some.inj hc'')
      refine ⟨value', natural, rfl, hn, ?_⟩
      unfold RawRollFacts.verdict altered at hverdict
      dsimp only at hverdict
      rw [hp, hn] at hverdict
      exact hverdict
    case initiative | damage | healing | hitDie | sleepHitPoints =>
      rw [hok.1] at hc
      cases hc

variable {index : Nat} {die : RawDieFact}

/-- The name of a modifier may change, as long as it is a name of its own; the value may not. -/
theorem Valid.altered_modifier (hv : r.Valid) {modifier : RollModifierFact}
    (hne : r.altered (.modifier index modifier) ≠ r) :
    (r.altered (.modifier index modifier)).Valid ↔ r.Unnoticed (.modifier index modifier) := by
  have hindex : index < r.modifiers.length := by
    by_contra hout
    refine hne ?_
    unfold altered
    dsimp only
    rw [List.set_eq_of_length_le (Nat.not_lt.mp hout)]
  -- the sum moves by what the value moves
  have hsum : (r.altered (.modifier index modifier)).modifierValues.sum =
      r.modifierValues.sum + (modifier.value.toInt - r.modifiers[index].value.toInt) := by
    unfold altered modifierValues
    dsimp only
    rw [map_set, List.sum_set', dif_pos (by rwa [List.length_map]), List.getElem_map]
    omega
  constructor
  · intro hv'
    have hsums := hv.sums_eq hv' rfl
    have hkept : (r.altered (.modifier index modifier)).keptValues = r.keptValues := rfl
    rw [hkept, hsum] at hsums
    have hvalue : r.modifiers[index].value = modifier.value := Int16.toInt_inj.mp (by omega)
    refine ⟨?_, hv'.modifierIds modifier (mem_set hindex modifier), hv'.modifiers_nodup⟩
    rw [List.getElem?_eq_getElem hindex, Option.map_some, hvalue]
  · rintro ⟨hvalue, hid, hnodup⟩
    rw [List.getElem?_eq_getElem hindex, Option.map_some, Option.some.injEq] at hvalue
    have hvalues : (r.altered (.modifier index modifier)).modifierValues = r.modifierValues := by
      unfold altered modifierValues
      dsimp only
      rw [map_set]
      refine List.ext_getElem (length_set ..) fun j h₁ h₂ => ?_
      rw [List.getElem_set]
      split
      case isTrue heq =>
        subst heq
        rw [List.getElem_map, hvalue]
      case isFalse => rfl
    refine { hv with
      modifiers_nodup := hnodup
      modifierIds := ?_
      modifierTotal := by rw [hvalues]; exact hv.modifierTotal
      total := by rw [hvalues]; exact hv.total
      expression := by rw [hvalues]; exact hv.expression }
    intro m hm
    rcases List.mem_or_eq_of_mem_set hm with hold | rfl
    · exact hv.modifierIds m hold
    · exact hid

/-- Which of two equal dice is kept may change, and nothing else. -/
theorem Valid.altered_kept (hv : r.Valid) {indices : List Nat} (hne : r.altered (.kept indices) ≠ r) :
    (r.altered (.kept indices)).Valid ↔ r.Unnoticed (.kept indices) := by
  have hindices : indices ≠ r.keptDieIndices := by
    rintro rfl
    exact hne rfl
  constructor
  · intro hv'
    rcases validateMode_eq_ok.mp hv'.mode with ⟨hmode, hkept⟩ | ⟨hmode, first, second, index, hdice, hkept, -, hvalue⟩
    · rcases hv.dice_cases with ⟨-, hold⟩ | ⟨hnormal, -⟩
      · exact absurd (hkept.trans hold.symm) hindices
      · exact absurd hmode hnormal
    · have hlt := hv'.kept_lt index (by rw [hkept]; simp)
      rw [show (r.altered (.kept indices)).individualDice = [first, second] from hdice] at hlt
      refine ⟨hmode, index, hkept, hlt, ?_⟩
      exact hv'.keptValues_eq.trans hv.keptValues_eq.symm
  · rintro ⟨hmode, index, rfl, hlt, hvalues⟩
    rcases validateMode_eq_ok.mp hv.mode with ⟨hnormal, -⟩ | ⟨-, first, second, old, hdice, hkept, hfirst, hbest⟩
    · exact absurd hnormal hmode
    have hold : old < 2 := by
      have := hv.kept_lt old (by rw [hkept]; simp)
      rwa [hdice] at this
    -- two d20 of one value are one record
    have hdie : r.individualDice[index]? = r.individualDice[old]? := by
      have hlen : r.individualDice.length = 2 := by rw [hdice]; rfl
      unfold altered keptValues at hvalues
      dsimp only at hvalues
      rw [hkept] at hvalues
      have hi := List.getElem?_eq_getElem (hlen.symm ▸ hlt : index < r.individualDice.length)
      have ho := List.getElem?_eq_getElem (hlen.symm ▸ hold : old < r.individualDice.length)
      rw [map_singleton, map_singleton, hi, ho] at hvalues
      have hvalue := Int.ofNat_inj.mp (List.cons.inj hvalues).1
      have hsides := (hv.sides _ (List.mem_of_getElem? hi)).trans (hv.sides _ (List.mem_of_getElem? ho)).symm
      rw [hi, ho]
      exact congrArg some (RawDieFact.eq_of hsides hvalue)
    exact
      { hv with
        kept_nodup := List.nodup_singleton index
        kept_lt := by
          intro i hi
          rw [List.mem_singleton.mp hi]
          show index < r.individualDice.length
          rw [hdice]
          exact hlt
        mode := by
          refine validateMode_eq_ok.mpr (.inr ⟨hmode, first, second, index, hdice, rfl, hfirst, ?_⟩)
          rw [← hdice, hdie, hdice]
          exact hbest
        keptTotal := by rw [hvalues]; exact hv.keptTotal
        total := by rw [hvalues]; exact hv.total
        natural := by
          intro natural hnatural
          have := hv.natural natural hnatural
          rw [hkept] at this
          exact hdie.trans this }

/-- A die that takes the place of another in a valid record has its size. -/
theorem Valid.altered_sides (hv : r.Valid) (hindex : index < r.individualDice.length)
    (hv' : (r.altered (.die index die)).Valid) : die.sides = r.individualDice[index].sides := by
  have hsides := hv'.sides die (mem_set hindex die)
  have hexpression : diceExpression _ _ _ = diceExpression _ _ _ := hv'.expression.symm.trans hv.expression
  have hlen : (r.altered (.die index die)).individualDice.length = r.individualDice.length := length_set ..
  have hmodifiers : (r.altered (.die index die)).modifierValues = r.modifierValues := rfl
  rw [hlen, hmodifiers] at hexpression
  rw [hsides, diceExpression_sides hexpression]
  exact (hv.sides _ (List.getElem_mem hindex)).symm

/-- A die may change where another one is kept all the same. -/
theorem Valid.altered_die (hv : r.Valid) (hne : r.altered (.die index die) ≠ r) :
    (r.altered (.die index die)).Valid ↔ r.Unnoticed (.die index die) := by
  have hindex : index < r.individualDice.length := by
    by_contra hout
    refine hne ?_
    unfold altered
    dsimp only
    rw [List.set_eq_of_length_le (Nat.not_lt.mp hout)]
  have hother : die ≠ r.individualDice[index] := by
    rintro rfl
    refine hne ?_
    unfold altered
    dsimp only
    rw [List.set_getElem_self]
  constructor
  · intro hv'
    have hsides := hv.altered_sides hindex hv'
    have hsums : (r.altered (.die index die)).keptValues.sum = r.keptValues.sum := by
      have hsums := hv.sums_eq hv' rfl
      have hmodifiers : (r.altered (.die index die)).modifierValues = r.modifierValues := rfl
      rw [hmodifiers] at hsums
      omega
    rcases validateMode_eq_ok.mp hv.mode with ⟨hmode, hkept⟩ | ⟨hmode, first, second, old, hdice, hkept, hfirst, -⟩
    case inl =>
      -- every die counts
      have hkept' : (r.altered (.die index die)).keptDieIndices =
          List.range (r.altered (.die index die)).individualDice.length := by
        show r.keptDieIndices = List.range (r.individualDice.set index die).length
        rw [length_set]
        exact hkept
      rw [keptValues_of_all hkept, keptValues_of_all hkept'] at hsums
      unfold altered at hsums
      dsimp only at hsums
      rw [map_set, List.sum_set', dif_pos (by rwa [List.length_map]), List.getElem_map] at hsums
      refine absurd (RawDieFact.eq_of hsides ?_) hother
      simp only [Int.ofNat_eq_natCast] at hsums
      omega
    case inr =>
      have hvalues : (r.altered (.die index die)).keptValues = r.keptValues := by
        unfold keptValues at hsums ⊢
        rw [show (r.altered (.die index die)).keptDieIndices = [old] from hkept, hkept] at hsums ⊢
        simp only [map_singleton, List.sum_singleton] at hsums ⊢
        rw [hsums]
      have hsides20 : die.sides = 20 := by
        rw [hsides, hv.sides _ (List.getElem_mem hindex)]
        unfold dieSides
        rw [hdice]
        exact hfirst
      refine ⟨hmode, ?_, hsides20, hsides20 ▸ hv'.dice die (mem_set hindex die), ?_⟩
      · -- the kept die shows what it showed before
        rw [hkept, List.mem_singleton]
        rintro rfl
        refine hother (RawDieFact.eq_of hsides ?_)
        unfold altered keptValues at hvalues
        dsimp only at hvalues
        rw [hkept, map_singleton, map_singleton, List.getElem?_set_self hindex,
          List.getElem?_eq_getElem hindex] at hvalues
        exact Int.ofNat_inj.mp (List.cons.inj hvalues).1
      · intro kept hmem
        rw [← hvalues, hv'.keptValues_eq] at hmem
        obtain ⟨value, hvalue, rfl⟩ := List.mem_map.mp hmem
        have hdie : die.value ∈ (r.altered (.die index die)).individualDice.map (·.value) :=
          List.mem_map_of_mem (mem_set hindex die)
        unfold countedValues at hvalue
        rw [show (r.altered (.die index die)).mode = r.mode from rfl] at hvalue
        cases hm : r.mode with
        | normal => exact absurd hm hmode
        | advantage =>
          rw [hm] at hvalue
          rw [if_pos rfl]
          have hmax := List.max?_eq_some_iff.mp (Option.mem_toList.mp hvalue)
          exact Int.ofNat_le.mpr (hmax.2 _ hdie)
        | disadvantage =>
          rw [hm] at hvalue
          rw [if_neg (by simp)]
          have hmin := List.min?_eq_some_iff.mp (Option.mem_toList.mp hvalue)
          exact Int.ofNat_le.mpr (hmin.2 _ hdie)
  · rintro ⟨hmode, hout, hsides, hrange, hbound⟩
    rcases validateMode_eq_ok.mp hv.mode with ⟨hnormal, -⟩ | ⟨-, first, second, old, hdice, hkept, hfirst, hbest⟩
    · exact absurd hnormal hmode
    have hold : old < 2 := by
      have := hv.kept_lt old (by rw [hkept]; simp)
      rwa [hdice] at this
    have hne' : index ≠ old := by
      rintro rfl
      exact hout (by rw [hkept]; simp)
    have hlen : (r.altered (.die index die)).individualDice.length = r.individualDice.length := length_set ..
    have hkeptDie : (r.altered (.die index die)).individualDice[old]? = r.individualDice[old]? :=
      List.getElem?_set_ne hne'
    have hvalues : (r.altered (.die index die)).keptValues = r.keptValues := by
      unfold keptValues
      rw [show (r.altered (.die index die)).keptDieIndices = [old] from hkept, hkept, map_singleton,
        map_singleton, hkeptDie]
    obtain ⟨first', second', hdice', hfirst', hsecond', hbest'⟩ : ∃ first' second',
        (r.altered (.die index die)).individualDice = [first', second'] ∧ first'.sides = 20 ∧ second'.sides = 20 ∧
          [first', second'][old]?.map (·.value) =
            some (if r.mode = .advantage then max first'.value second'.value else min first'.value second'.value) := by
      have hsecond : second.sides = 20 := by
        rw [hv.sides second (by rw [hdice]; simp)]
        unfold dieSides
        rw [hdice]
        exact hfirst
      have hset : (r.altered (.die index die)).individualDice = [first, second].set index die := by
        show r.individualDice.set index die = _
        rw [hdice]
      have hlt : index < 2 := by rwa [hdice] at hindex
      have hkeptValue : r.keptValues = [(([first, second][old]?.map (·.value)).getD 0 : Nat)] := by
        unfold keptValues
        rw [hkept, hdice]
        rfl
      have hle := hbound _ (by rw [hkeptValue]; exact List.mem_singleton_self _)
      obtain ⟨rfl, rfl⟩ | ⟨rfl, rfl⟩ : (index = 0 ∧ old = 1) ∨ (index = 1 ∧ old = 0) := by omega
      · refine ⟨die, second, hset, hsides, hsecond, congrArg some ?_⟩
        show second.value = _
        split
        case isTrue hadvantage =>
          rw [if_pos hadvantage] at hle
          exact (max_eq_right (Int.ofNat_le.mp hle)).symm
        case isFalse hnot =>
          rw [if_neg hnot] at hle
          exact (min_eq_right (Int.ofNat_le.mp hle)).symm
      · refine ⟨first, die, hset, hfirst, hsides, congrArg some ?_⟩
        show first.value = _
        split
        case isTrue hadvantage =>
          rw [if_pos hadvantage] at hle
          exact (max_eq_left (Int.ofNat_le.mp hle)).symm
        case isFalse hnot =>
          rw [if_neg hnot] at hle
          exact (min_eq_left (Int.ofNat_le.mp hle)).symm
    have hdieSides : (r.altered (.die index die)).dieSides = r.dieSides := by
      unfold dieSides
      rw [hdice', hdice]
      exact hfirst'.trans hfirst.symm
    exact
      { hv with
        dice_ne := by rw [hdice']; simp
        dice := by
          intro d hd
          rcases List.mem_or_eq_of_mem_set hd with hmem | rfl
          · exact hv.dice d hmem
          · rwa [hsides]
        dice_le := by rw [hlen]; exact hv.dice_le
        kept_lt := by rw [hlen]; exact hv.kept_lt
        sides := by
          intro d hd
          rw [hdieSides]
          rcases List.mem_or_eq_of_mem_set hd with hmem | rfl
          · exact hv.sides d hmem
          · rw [hsides]
            unfold dieSides
            rw [hdice]
            exact hfirst.symm
        mode := validateMode_eq_ok.mpr (.inr ⟨hmode, first', second', old, hdice', hkept, hfirst', hbest'⟩)
        keptTotal := by rw [hvalues]; exact hv.keptTotal
        total := by rw [hvalues]; exact hv.total
        expression := by rw [hlen, hdieSides]; exact hv.expression
        natural := by
          intro natural hnatural
          have hkeptNatural := hv.natural natural hnatural
          rw [hkept] at hkeptNatural
          rw [show (r.altered (.die index die)).keptDieIndices = [old] from hkept]
          exact hkeptDie.trans hkeptNatural
        shape := by
          have hshape := hv.shape
          unfold ShapeOk at hshape ⊢
          rw [hlen]
          exact hshape }

/-- **What the check notices**: every alteration of one field of a valid record, except of what the record says
    only once. -/
theorem Valid.altered_iff (hv : r.Valid) {a : Alteration} (hne : r.altered a ≠ r) :
    (r.altered a).Valid ↔ r.Unnoticed a := by
  cases a with
  | die index die => exact hv.altered_die hne
  | modifier index modifier => exact hv.altered_modifier hne
  | kept indices => exact hv.altered_kept hne
  | natural natural => exact iff_of_false (fun hv' => hne (hv.altered_natural hv')) id
  | expression expression => exact iff_of_false (fun hv' => hne (hv.altered_expression hv')) id
  | total total => exact iff_of_false (fun hv' => hne (hv.altered_total hv')) id
  | target targetId => exact hv.altered_target hne
  | comparison comparison => exact hv.altered_comparison hne
  | outcome outcome => exact iff_of_false (fun hv' => hne (hv.altered_outcome hv')) id

end RawRollFacts

end ManchesterArcana.Encounter
