import ManchesterArcana.Store.Document
import Mathlib.Logic.Function.Basic

/-!
# `Store.Filter` — the query language of a document store

A filter is a conjunction or disjunction of conditions on single fields. As in the store itself, a condition
on a field that holds an array is met when an element meets it, a negated condition is met by a document that
lacks the field, and numeric comparisons are met only by numbers.
-/

namespace ManchesterArcana.Store

/-- The operators a field may be compared with. -/
inductive Condition where
  | equals (x : Scalar)
  | notEquals (x : Scalar)
  | oneOf (xs : List Scalar)
  | noneOf (xs : List Scalar)
  | greaterThan (n : Int)
  | isString
  deriving DecidableEq, Repr

inductive Filter where
  | always
  | field (key : String) (condition : Condition)
  | both (left right : Filter)
  | either (left right : Filter)
  deriving DecidableEq, Repr

/-- The field is there and it, or an element of the array it holds, satisfies `p`. -/
def Bson.meets (p : Scalar → Bool) : Option Bson → Bool
  | none => false
  | some (.array values) => values.any (Bson.isScalar p)
  | some value => value.isScalar p

def Scalar.isAbove (n : Int) : Scalar → Bool
  | .integer m => decide (n < m)
  | .dateTime m => decide (n < m)
  | _ => false

def Scalar.isText : Scalar → Bool
  | .string _ => true
  | _ => false

/-- Does the value of a field, if it is there at all, meet the condition? -/
def Condition.holds (value : Option Bson) : Condition → Bool
  | .equals x => Bson.meets (· == x) value
  | .notEquals x => !Bson.meets (· == x) value
  | .oneOf xs => Bson.meets (xs.contains ·) value
  | .noneOf xs => !Bson.meets (xs.contains ·) value
  | .greaterThan n => Bson.meets (Scalar.isAbove n) value
  | .isString => Bson.meets Scalar.isText value

namespace Filter

def matchesDoc : Filter → Document → Bool
  | .always, _ => true
  | .field key c, d => c.holds (d.get key)
  | .both f g, d => f.matchesDoc d && g.matchesDoc d
  | .either f g, d => f.matchesDoc d || g.matchesDoc d

/-- All of the listed fields meet their conditions. -/
def allOf : List (String × Condition) → Filter
  | [] => .always
  | (key, c) :: rest => .both (.field key c) (allOf rest)

variable {d : Document}

@[simp] theorem matchesDoc_always : always.matchesDoc d = true := rfl

variable {key : String} {c : Condition} {f g : Filter}

@[simp] theorem matchesDoc_field :
    (field key c).matchesDoc d = c.holds (d.get key) := rfl

@[simp] theorem matchesDoc_both :
    (both f g).matchesDoc d = (f.matchesDoc d && g.matchesDoc d) := rfl

@[simp] theorem matchesDoc_either :
    (either f g).matchesDoc d = (f.matchesDoc d || g.matchesDoc d) := rfl

@[simp] theorem matchesDoc_allOf_nil : (allOf []).matchesDoc d = true := rfl

@[simp] theorem matchesDoc_allOf_cons {rest : List (String × Condition)} :
    (allOf ((key, c) :: rest)).matchesDoc d = (c.holds (d.get key) && (allOf rest).matchesDoc d) := rfl

end Filter

/-! ## Operations on one collection -/

/-- The documents a filter selects, in stored order. -/
def findDocs (f : Filter) (docs : List Document) : List Document := docs.filter f.matchesDoc

/-- The first document a filter selects. -/
def findOne (f : Filter) (docs : List Document) : Option Document := docs.find? f.matchesDoc

/-- What is left once every selected document is deleted. -/
def deleteMany (f : Filter) (docs : List Document) : List Document :=
  docs.filter fun d => !f.matchesDoc d

section

variable {f g : Filter} {docs : List Document} {d : Document}

@[simp] theorem mem_findDocs : d ∈ findDocs f docs ↔ d ∈ docs ∧ f.matchesDoc d = true := List.mem_filter

/-- **A document survives a deletion exactly when the filter does not select it.** -/
@[simp] theorem mem_deleteMany : d ∈ deleteMany f docs ↔ d ∈ docs ∧ f.matchesDoc d = false := by
  unfold deleteMany
  rw [List.mem_filter, Bool.not_eq_true']

theorem findOne_eq_none : findOne f docs = none ↔ ∀ d ∈ docs, f.matchesDoc d = false := by
  unfold findOne
  simp

theorem findOne_eq_some (h : findOne f docs = some d) : d ∈ docs ∧ f.matchesDoc d = true :=
  ⟨List.mem_of_find?_eq_some h, List.find?_some h⟩

end

/-! ## What a value mentions -/

/-- The field holds `v`, or an array with `v` in it. -/
def Mentions (value : Option Bson) (v : Bson) : Prop :=
  value = some v ∨ ∃ values, value = some (.array values) ∧ v ∈ values

variable {x : Scalar} {value : Option Bson}

theorem isScalar_beq_iff {value : Bson} :
    value.isScalar (· == x) = true ↔ value = .scalar x := by
  cases value with
  | scalar y =>
    show (y == x) = true ↔ Bson.scalar y = Bson.scalar x
    rw [beq_iff_eq, Bson.scalar.injEq]
  | document fields => exact ⟨fun h => (nomatch h), fun h => (nomatch h)⟩
  | array values => exact ⟨fun h => (nomatch h), fun h => (nomatch h)⟩

/-- **An equality condition is met exactly by a field that mentions the value.** -/
theorem equals_holds_iff :
    (Condition.equals x).holds value = true ↔ Mentions value (.scalar x) := by
  unfold Mentions
  show Bson.meets (· == x) value = true ↔ _
  cases value with
  | none => simp [Bson.meets]
  | some value =>
    cases value with
    | array values =>
      show values.any (Bson.isScalar (· == x)) = true ↔ _
      simp only [List.any_eq_true, isScalar_beq_iff, Option.some.injEq, reduceCtorEq, false_or,
        Bson.array.injEq, exists_eq_left', exists_eq_right]
    | scalar y =>
      show (Bson.scalar y).isScalar (· == x) = true ↔ _
      simp [isScalar_beq_iff]
    | document fields => simp [Bson.meets, Bson.isScalar]

/-- Membership in a list of literals is mentioning one of them. -/
theorem oneOf_holds_iff {xs : List Scalar} :
    (Condition.oneOf xs).holds value = true ↔ ∃ x ∈ xs, Mentions value (.scalar x) := by
  simp only [← equals_holds_iff]
  show Bson.meets (xs.contains ·) value = true ↔ ∃ x ∈ xs, Bson.meets (· == x) value = true
  cases value with
  | none => simp [Bson.meets]
  | some value =>
    cases value with
    | array values =>
      show values.any (Bson.isScalar (xs.contains ·)) = true ↔ ∃ x ∈ xs, values.any _ = true
      simp only [List.any_eq_true]
      constructor
      · rintro ⟨v, hv, hx⟩
        cases v with
        | scalar y => exact ⟨y, List.contains_iff_mem.mp hx, .scalar y, hv, beq_self_eq_true y⟩
        | document fields => cases hx
        | array inner => cases hx
      · rintro ⟨x, hx, v, hv, hvx⟩
        rw [isScalar_beq_iff] at hvx
        subst hvx
        exact ⟨_, hv, List.contains_iff_mem.mpr hx⟩
    | scalar y =>
      show xs.contains y = true ↔ ∃ x ∈ xs, (y == x) = true
      rw [List.contains_iff_mem]
      simp
    | document fields => simp [Bson.meets, Bson.isScalar]

/-! ## Sweeping several collections -/

section Sweep

variable {κ : Type} [DecidableEq κ]

/-- Delete from each listed collection what its filter selects, one after the other. -/
def sweep (docs : κ → List Document) : List (κ × Filter) → κ → List Document
  | [] => docs
  | (c, f) :: rest => sweep (Function.update docs c (deleteMany f (docs c))) rest

/-- **A document survives a sweep exactly when no filter listed for its collection selects it.** -/
theorem mem_sweep {specs : List (κ × Filter)} {docs : κ → List Document} {c : κ} {d : Document} :
    d ∈ sweep docs specs c ↔ d ∈ docs c ∧ ∀ f, (c, f) ∈ specs → f.matchesDoc d = false := by
  induction specs generalizing docs with
  | nil => simp [sweep]
  | cons spec rest ih =>
    obtain ⟨c', f'⟩ := spec
    rw [sweep, ih]
    by_cases hc : c = c'
    · subst hc
      rw [Function.update_self, mem_deleteMany]
      constructor
      · rintro ⟨⟨hd, hf'⟩, hrest⟩
        refine ⟨hd, fun f hf => ?_⟩
        rcases List.mem_cons.mp hf with heq | hmem
        · cases heq
          exact hf'
        · exact hrest f hmem
      · rintro ⟨hd, hall⟩
        exact ⟨⟨hd, hall f' List.mem_cons_self⟩, fun f hf => hall f (List.mem_cons_of_mem _ hf)⟩
    · rw [Function.update_of_ne hc]
      refine and_congr_right fun hd => ⟨fun hall f hf => ?_, fun hall f hf => ?_⟩
      · rcases List.mem_cons.mp hf with heq | hmem
        · cases heq
          exact absurd rfl hc
        · exact hall f hmem
      · exact hall f (List.mem_cons_of_mem _ hf)

end Sweep

end ManchesterArcana.Store
