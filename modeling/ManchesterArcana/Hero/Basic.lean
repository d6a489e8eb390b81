import ManchesterArcana.Generation.Documents
import ManchesterArcana.Hero.Vocabulary

/-!
# `Hero.Basic` — errors of the hero rules, and ability scores

A check of the hero rules names the field it refuses. Ability scores are between 1 and 30 by construction; a hero's
are the standard array, handed out to the six abilities in some order, with one point more on each.
-/

namespace ManchesterArcana.Hero

open Effect

/-- The part of `HeroError` that choices, sheets and characters raise. -/
inductive HeroError where
  | invalidSchemaVersion (expected actual : Nat)
  | invalidField (field reason : String)
  | staleRevision (expected actual : Nat)
  | unsupportedMechanic (mechanic : UnsupportedMechanic)
  deriving DecidableEq

abbrev HeroResult (α : Type) := Except HeroError α

/-! ## Checks -/

def requireSchema (actual expected : Nat) : HeroResult Unit :=
  rejectIf (actual ≠ expected) (.invalidSchemaVersion expected actual)

def validateId (field value : String) : HeroResult Unit :=
  rejectIf (isValidOpaqueId value = false)
    (.invalidField field "identifier must satisfy the shared opaque-id bounds")

def validateText (field value : String) (maximumChars : Nat) (required : Bool) : HeroResult Unit :=
  rejectIf ((required = true ∧ isBlank value = true) ∨ maximumChars < value.length ∨
      value.toList.any Generation.isControl = true)
    (.invalidField field "text is blank, too long, or contains control characters")

/-- Each value comes before the next in the order of `rank`. -/
def StrictlySorted {α : Type} (rank : α → Nat) (values : List α) : Prop :=
  values.IsChain fun a b => rank a < rank b

instance {α : Type} (rank : α → Nat) (values : List α) : Decidable (StrictlySorted rank values) :=
  inferInstanceAs (Decidable (List.IsChain _ _))

def validateSortedUnique {α : Type} (field : String) (rank : α → Nat) (values : List α) : HeroResult Unit :=
  rejectIf (¬ StrictlySorted rank values)
    (.invalidField field "values must be canonical, strictly sorted, and unique")

def checkRevision (actual expected : Nat) : HeroResult Unit :=
  rejectIf (actual ≠ expected) (.staleRevision expected actual)

variable {u : Unit}

theorem requireSchema_eq_ok {actual expected : Nat} :
    requireSchema actual expected = .ok u ↔ actual = expected := by
  rw [requireSchema, rejectIf_eq_ok, not_not]

theorem validateId_eq_ok {field value : String} :
    validateId field value = .ok u ↔ isValidOpaqueId value = true := by
  rw [validateId, rejectIf_eq_ok, Bool.not_eq_false]

theorem validateSortedUnique_eq_ok {α : Type} {field : String} {rank : α → Nat} {values : List α} :
    validateSortedUnique field rank values = .ok u ↔ StrictlySorted rank values := by
  rw [validateSortedUnique, rejectIf_eq_ok, not_not]

theorem checkRevision_eq_ok {actual expected : Nat} :
    checkRevision actual expected = .ok u ↔ actual = expected := by
  rw [checkRevision, rejectIf_eq_ok, not_not]

/-! ## Ability scores -/

/-- A score between 1 and 30. -/
structure AbilityScore where
  value : Nat
  inRange : 1 ≤ value ∧ value ≤ 30
  deriving DecidableEq

structure InvalidAbilityScore where
  score : Nat
  deriving DecidableEq

namespace AbilityScore

def new (score : Nat) : Except InvalidAbilityScore AbilityScore :=
  if h : 1 ≤ score ∧ score ≤ 30 then .ok ⟨score, h⟩ else .error ⟨score⟩

/-- `(score - 10) / 2`, rounded down. -/
def modifier (score : AbilityScore) : Int8 := Int8.ofInt ((score.value - 10 : Int) / 2)

theorem new_of_inRange {score : Nat} (h : 1 ≤ score ∧ score ≤ 30) : new score = .ok ⟨score, h⟩ :=
  dif_pos h

theorem modifier_toInt (score : AbilityScore) : score.modifier.toInt = (score.value - 10 : Int) / 2 := by
  have hrange := score.inRange
  refine Int8.toInt_ofInt_of_le ?_ ?_
  · show (-128 : Int) ≤ _
    omega
  · show _ < (128 : Int)
    omega

/-- The modifiers a creature can have. -/
theorem modifier_bounds (score : AbilityScore) : -5 ≤ score.modifier.toInt ∧ score.modifier.toInt ≤ 10 := by
  have hrange := score.inRange
  rw [modifier_toInt]
  omega

end AbilityScore

structure AbilityScores where
  strength : AbilityScore
  dexterity : AbilityScore
  constitution : AbilityScore
  intelligence : AbilityScore
  wisdom : AbilityScore
  charisma : AbilityScore
  deriving DecidableEq

namespace AbilityScores

def new (strength dexterity constitution intelligence wisdom charisma : Nat) :
    Except InvalidAbilityScore AbilityScores := do
  return {
    strength := ← AbilityScore.new strength
    dexterity := ← AbilityScore.new dexterity
    constitution := ← AbilityScore.new constitution
    intelligence := ← AbilityScore.new intelligence
    wisdom := ← AbilityScore.new wisdom
    charisma := ← AbilityScore.new charisma }

def get (scores : AbilityScores) : Ability → AbilityScore
  | .strength => scores.strength
  | .dexterity => scores.dexterity
  | .constitution => scores.constitution
  | .intelligence => scores.intelligence
  | .wisdom => scores.wisdom
  | .charisma => scores.charisma

end AbilityScores

structure AbilityModifiers where
  strength : Int8
  dexterity : Int8
  constitution : Int8
  intelligence : Int8
  wisdom : Int8
  charisma : Int8
  deriving DecidableEq

namespace AbilityModifiers

def fromScores (scores : AbilityScores) : AbilityModifiers where
  strength := (scores.get .strength).modifier
  dexterity := (scores.get .dexterity).modifier
  constitution := (scores.get .constitution).modifier
  intelligence := (scores.get .intelligence).modifier
  wisdom := (scores.get .wisdom).modifier
  charisma := (scores.get .charisma).modifier

def get (modifiers : AbilityModifiers) : Ability → Int8
  | .strength => modifiers.strength
  | .dexterity => modifiers.dexterity
  | .constitution => modifiers.constitution
  | .intelligence => modifiers.intelligence
  | .wisdom => modifiers.wisdom
  | .charisma => modifiers.charisma

end AbilityModifiers

/-! ## The standard array -/

structure StandardArrayAssignment where
  strength : Nat
  dexterity : Nat
  constitution : Nat
  intelligence : Nat
  wisdom : Nat
  charisma : Nat
  deriving DecidableEq

namespace StandardArrayAssignment

/-- `StandardArrayAssignment::VALUES`, in ascending order. -/
def standardArray : List Nat := [8, 10, 12, 13, 14, 15]

def values (a : StandardArrayAssignment) : List Nat :=
  [a.strength, a.dexterity, a.constitution, a.intelligence, a.wisdom, a.charisma]

def validate (a : StandardArrayAssignment) : HeroResult Unit :=
  rejectIf (a.values.insertionSort (· ≤ ·) ≠ standardArray)
    (.invalidField "ability_assignment" "scores must use each of 15, 14, 13, 12, 10, and 8 exactly once")

/-- The scores with `bonus` on top of each. -/
def scores (a : StandardArrayAssignment) (bonus : Nat) : Except InvalidAbilityScore AbilityScores :=
  AbilityScores.new (a.strength + bonus) (a.dexterity + bonus) (a.constitution + bonus) (a.intelligence + bonus)
    (a.wisdom + bonus) (a.charisma + bonus)

def baseScores (a : StandardArrayAssignment) : HeroResult AbilityScores := do
  a.validate
  (a.scores 0).mapError fun _ => .invalidField "ability_assignment" "a standard-array value was invalid"

def humanScores (a : StandardArrayAssignment) : HeroResult AbilityScores := do
  a.validate
  (a.scores 1).mapError fun _ =>
    .invalidField "ability_assignment" "the supported human ancestry adjustment was invalid"

variable {a : StandardArrayAssignment}

/-- Each score of the array is between 8 and 15. -/
theorem mem_values (h : a.validate = .ok ()) {v : Nat} (hv : v ∈ a.values) :
    8 ≤ v ∧ v ≤ 15 := by
  rw [validate, rejectIf_eq_ok, not_not] at h
  have hmem : v ∈ standardArray := h ▸ (List.perm_insertionSort _ _).mem_iff.mpr hv
  simp only [standardArray, List.mem_cons, List.not_mem_nil, or_false] at hmem
  omega

/-- A valid array makes scores. -/
theorem scores_ok (h : a.validate = .ok ()) {bonus : Nat} (hb : bonus ≤ 15) :
    ∃ scores, a.scores bonus = .ok scores := by
  have hrange : ∀ v ∈ a.values, 1 ≤ v + bonus ∧ v + bonus ≤ 30 := by
    intro v hv
    have := mem_values h hv
    omega
  unfold values at hrange
  simp only [List.forall_mem_cons] at hrange
  obtain ⟨hstr, hdex, hcon, hint, hwis, hcha, -⟩ := hrange
  unfold scores AbilityScores.new
  rw [AbilityScore.new_of_inRange hstr, AbilityScore.new_of_inRange hdex, AbilityScore.new_of_inRange hcon,
    AbilityScore.new_of_inRange hint, AbilityScore.new_of_inRange hwis, AbilityScore.new_of_inRange hcha]
  exact ⟨_, rfl⟩

theorem baseScores_ok (h : a.validate = .ok ()) :
    ∃ scores, a.baseScores = .ok scores := by
  obtain ⟨scores, hscores⟩ := scores_ok h (Nat.zero_le 15)
  refine ⟨scores, ?_⟩
  rw [baseScores, h, ok_bind, hscores]
  rfl

theorem humanScores_ok (h : a.validate = .ok ()) :
    ∃ scores, a.humanScores = .ok scores := by
  obtain ⟨scores, hscores⟩ := scores_ok h (show 1 ≤ 15 by decide)
  refine ⟨scores, ?_⟩
  rw [humanScores, h, ok_bind, hscores]
  rfl

end StandardArrayAssignment

end ManchesterArcana.Hero
