import ManchesterArcana.Core.DieStream

/-!
# `Core.Records` — what a valid roll record repeats

A record of a roll says most things twice. Its kept dice are those the mode keeps of the dice rolled, its modifiers
add up to the constant of the expression, its total is the constant and the kept dice: `RollRecord.Determined`. The
validation lets nothing else through (`RollRecord.validate_determined`), and whoever makes records validates them.
-/

namespace ManchesterArcana

open Effect

/-- The dice a mode keeps, if it is given as many as it takes. -/
def RollMode.keep : RollMode → List Nat → Option (List Nat)
  | .normal, dice => some dice
  | .advantage, [first, second] => some [max first second]
  | .disadvantage, [first, second] => some [min first second]
  | _, _ => none

namespace RollRecord

/-- The record is what its expression, mode and dice make of it. -/
structure Determined (r : RollRecord) : Prop where
  /-- Advantage and disadvantage are for one d20, which is rolled twice. -/
  shape : r.rollMode = .normal ∨ r.expression.count = 1 ∧ r.expression.sides = 20
  rolled : r.rolledDice.length = if r.rollMode = .normal then r.expression.count else 2
  faces : ∀ die ∈ r.rolledDice, InRange r.expression.sides die
  kept : r.rollMode.keep r.rolledDice = some r.keptDice
  names : (r.modifierComponents.map (·.name)).Pairwise (· < ·)
  modifiers : (r.modifierComponents.map (·.value)).sum = r.expression.constant
  total : r.total = r.expression.constant + (r.keptDice.map (Int.ofNat ·)).sum
  bounded : r.total.natAbs ≤ maxRollAbsoluteTotal
  span : r.cursorBefore + r.rolledDice.length ≤ r.cursorAfter

/-- The components are in order, behind the previous name, and their values are summed. -/
theorem checkComponents_returns {previous : Option String} {total sum : Int} {components : List ModifierComponent}
    (h : checkComponents previous total components = .ok sum) :
    (∀ name ∈ previous, ∀ component ∈ components, name < component.name) ∧
      (components.map (·.name)).Pairwise (· < ·) ∧ sum = total + (components.map (·.value)).sum := by
  induction components generalizing previous total with
  | nil =>
    obtain rfl := Except.ok.inj h
    exact ⟨fun _ _ _ hmem => absurd hmem List.not_mem_nil, .nil, (Int.add_zero _).symm⟩
  | cons component rest ih =>
    simp only [checkComponents, seq_eq_ok, rejectIf_eq_ok, not_exists, not_and, not_not] at h
    obtain ⟨-, hprevious, -, hrest⟩ := h
    obtain ⟨hnext, hsorted, rfl⟩ := ih hrest
    have hbehind : ∀ other ∈ rest, component.name < other.name := hnext component.name rfl
    refine ⟨fun name hname => List.forall_mem_cons.mpr ⟨hprevious name hname, fun other hother => ?_⟩,
      List.pairwise_cons.mpr ⟨fun name hname => ?_, hsorted⟩, ?_⟩
    · exact String.lt_trans (hprevious name hname) (hbehind other hother)
    · obtain ⟨other, hother, rfl⟩ := List.mem_map.mp hname
      exact hbehind other hother
    · rw [List.map_cons, List.sum_cons, Int.add_assoc]

theorem minimumWords_returns {r : RollRecord} {words : Nat} (h : r.minimumWords = .ok words) :
    (r.rollMode = .normal ∨ r.expression.count = 1 ∧ r.expression.sides = 20) ∧
      (r.rolledDice.length = if r.rollMode = .normal then r.expression.count else 2) ∧
      r.rollMode.keep r.rolledDice = some r.keptDice ∧ words = r.rolledDice.length := by
  unfold minimumWords at h
  split at h
  · rename_i hmode
    simp only [seq_eq_ok, rejectIf_eq_ok, not_or, not_not, pure_eq, Except.ok.injEq] at h
    obtain ⟨⟨hlength, hkept⟩, rfl⟩ := h
    rw [hmode, hkept]
    exact ⟨.inl rfl, hlength, rfl, hlength.symm⟩
  · rename_i hmode
    split at h
    · rename_i first second kept hrolled hkeptDice
      simp only [seq_eq_ok, rejectIf_eq_ok, not_or, not_not, pure_eq, Except.ok.injEq] at h
      obtain ⟨hshape, hkept, rfl⟩ := h
      rw [hrolled, hkeptDice, hkept, if_neg hmode]
      refine ⟨.inr hshape, rfl, ?_, rfl⟩
      cases hm : r.rollMode with
      | normal => exact absurd hm hmode
      | advantage => rfl
      | disadvantage => rfl
    · cases h

/-- **The validation lets through what is determined**, and nothing else. -/
theorem validate_determined {r : RollRecord} (h : r.validate = .ok ()) : r.Determined := by
  simp only [validate, bind_eq_ok, exists_unit, rejectIf_eq_ok, not_not, not_lt, not_exists, not_and] at h
  obtain ⟨-, -, -, -, -, -, -, sum, hcomponents, hsum, words, hwords, hfaces, -, htotal, hbounded, hcursor, hspan⟩ := h
  obtain ⟨-, hnames, hvalues⟩ := checkComponents_returns hcomponents
  obtain ⟨hshape, hrolled, hkept, rfl⟩ := minimumWords_returns hwords
  rw [Int.zero_add] at hvalues
  rw [hsum] at htotal hbounded
  refine ⟨hshape, hrolled, hfaces, hkept, hnames, hvalues.symm.trans hsum, htotal.symm, ?_, ?_⟩
  · rw [← htotal]
    exact hbounded
  · omega

end RollRecord

/-- **Records.** What the generator records of a roll is valid, and is the roll it was asked for. A valid record is
    determined by its expression, its mode and the dice that were rolled, spelled out here; so of two valid records
    that agree on all else, the kept dice agree and the totals agree, and whatever else is altered in one, what it
    still says of the rest is right or it is no longer valid. -/
theorem roll_records (streams : WordStreams) :
    (∀ rng expression context metadata modifiers record next,
      (DeterministicRng.rollRecord streams expression context metadata modifiers).run rng = (.ok record, next) →
        record.validate = .ok () ∧ record.expression = expression ∧ record.rollMode = context.effectiveMode ∧
          record.cursorBefore = rng.cursor ∧ record.cursorAfter = next.cursor) ∧
      (∀ record : RollRecord, record.validate = .ok () →
        (record.rolledDice.length = if record.rollMode = .normal then record.expression.count else 2) ∧
          (record.rollMode ≠ .normal → record.expression.count = 1 ∧ record.expression.sides = 20) ∧
          (∀ die ∈ record.rolledDice, InRange record.expression.sides die) ∧
          record.rollMode.keep record.rolledDice = some record.keptDice ∧
          (record.modifierComponents.map (·.value)).sum = record.expression.constant ∧
          record.total = record.expression.constant + (record.keptDice.map (Int.ofNat ·)).sum ∧
          record.cursorBefore + record.rolledDice.length ≤ record.cursorAfter) ∧
      ∀ record : RollRecord, record.validate = .ok () →
        (∀ keptDice, { record with keptDice }.validate = .ok () → keptDice = record.keptDice) ∧
          (∀ total, { record with total }.validate = .ok () → total = record.total) ∧
          (∀ rolledDice, { record with rolledDice }.validate = .ok () →
            record.rollMode.keep rolledDice = some record.keptDice) ∧
          (∀ rollMode, { record with rollMode }.validate = .ok () →
            rollMode.keep record.rolledDice = some record.keptDice) ∧
          (∀ modifierComponents, { record with modifierComponents }.validate = .ok () →
            (modifierComponents.map (·.value)).sum = record.expression.constant) ∧
          ∀ expression, { record with expression }.validate = .ok () →
            expression.constant = record.expression.constant := by
  refine ⟨fun rng expression context metadata modifiers record next h => ?_, fun record h => ?_, fun record h => ?_⟩
  · rw [DeterministicRng.eq_atCursor rng] at h
    obtain ⟨r, hroll, hfrom⟩ := DeterministicRng.rollRecord_returns h
    obtain ⟨-, hrolls, hbefore, rfl⟩ := DeterministicRng.roll_returns hroll
    simp only [RollRecord.fromRoll, seq_eq_ok, pure_eq, Except.ok.injEq] at hfrom
    obtain ⟨hvalid, rfl⟩ := hfrom
    exact ⟨hvalid, hrolls.expression, hrolls.mode, hbefore, rfl⟩
  · have hr := RollRecord.validate_determined h
    exact ⟨hr.rolled, hr.shape.resolve_left, hr.faces, hr.kept, hr.modifiers, hr.total, hr.span⟩
  · have hr := RollRecord.validate_determined h
    refine ⟨fun kept hkept => ?_, fun total htotal => ?_, fun rolled hrolled => ?_, fun mode hmode => ?_,
      fun components hcomponents => ?_, fun expression hexpression => ?_⟩
    · have hr' := RollRecord.validate_determined hkept
      exact Option.mem_unique hr'.kept hr.kept
    · have hr' := RollRecord.validate_determined htotal
      exact hr'.total.trans hr.total.symm
    · exact (RollRecord.validate_determined hrolled).kept
    · exact (RollRecord.validate_determined hmode).kept
    · exact (RollRecord.validate_determined hcomponents).modifiers
    · exact (RollRecord.validate_determined hexpression).modifiers.symm.trans hr.modifiers

end ManchesterArcana
