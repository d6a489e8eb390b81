import Mathlib.Algebra.Order.Group.Basic
import Mathlib.Algebra.BigOperators.Group.List.Basic
import Mathlib.Algebra.Order.BigOperators.Group.List
import Mathlib.Data.List.Sort

/-!
# `Effect.Shares` — drawing by weight

A list divides the line from zero to its total weight into shares, one behind the other. `drawShare` walks the list and
takes from the draw what each element weighs; a draw on the line comes out at the element that has its share there
(`hasShare_drawShare`), and no two elements share a point (`HasShare.unique`). Elements are kept in the order of a key,
so it does not matter how they were listed (`insertionSort_eq_of_perm`).
-/

namespace ManchesterArcana.Effect

section Shares

variable {α K : Type} [AddCommGroup K] {weight : α → K} {fallback x y : α} {xs : List α} {draw : K}

def totalWeight (weight : α → K) (xs : List α) : K := (xs.map weight).sum

theorem totalWeight_nil : totalWeight weight [] = 0 := rfl

theorem totalWeight_cons : totalWeight weight (x :: xs) = weight x + totalWeight weight xs := rfl

variable [LinearOrder K]

/-- The first element that weighs more than what is left of the draw. -/
def drawShare (weight : α → K) (fallback : α) : List α → K → α
  | [], _ => fallback
  | x :: rest, draw => if draw < weight x then x else drawShare weight fallback rest (draw - weight x)

/-- The draw falls into the share of `x`, which begins where all before it ends. -/
def HasShare (weight : α → K) (xs : List α) (draw : K) (x : α) : Prop :=
  ∃ before after, xs = before ++ x :: after ∧ totalWeight weight before ≤ draw ∧
    draw < totalWeight weight before + weight x

theorem HasShare.mem (h : HasShare weight xs draw x) : x ∈ xs := by
  obtain ⟨before, after, rfl, -⟩ := h
  exact List.mem_append_right _ List.mem_cons_self

variable [IsOrderedAddMonoid K]

theorem totalWeight_nonneg (h : ∀ x ∈ xs, 0 ≤ weight x) : 0 ≤ totalWeight weight xs := by
  induction xs with
  | nil => exact le_rfl
  | cons x xs ih =>
    obtain ⟨hx, hxs⟩ := List.forall_mem_cons.mp h
    exact add_nonneg hx (ih hxs)

theorem totalWeight_pos (h : ∀ x ∈ xs, 0 < weight x) (hne : xs ≠ []) : 0 < totalWeight weight xs := by
  cases xs with
  | nil => exact absurd rfl hne
  | cons x xs =>
    obtain ⟨hx, hxs⟩ := List.forall_mem_cons.mp h
    exact add_pos_of_pos_of_nonneg hx (totalWeight_nonneg fun y hy => (hxs y hy).le)

/-- A share behind the first. -/
theorem HasShare.cons (h : HasShare weight xs (draw - weight y) x) : HasShare weight (y :: xs) draw x := by
  obtain ⟨before, after, rfl, hle, hlt⟩ := h
  refine ⟨y :: before, after, rfl, ?_, ?_⟩
  · rw [totalWeight_cons, add_comm]
    exact le_sub_iff_add_le.mp hle
  · rw [totalWeight_cons, add_assoc, add_comm]
    exact sub_lt_iff_lt_add.mp hlt

/-- **The walk finds the share** that the draw falls into. -/
theorem hasShare_drawShare (hnonneg : 0 ≤ draw) (hlt : draw < totalWeight weight xs) :
    HasShare weight xs draw (drawShare weight fallback xs draw) := by
  induction xs generalizing draw with
  | nil => exact absurd hlt (not_lt.mpr hnonneg)
  | cons y xs ih =>
    unfold drawShare
    by_cases hy : draw < weight y
    · rw [if_pos hy]
      refine ⟨[], xs, rfl, hnonneg, ?_⟩
      rw [totalWeight_nil, zero_add]
      exact hy
    · rw [if_neg hy]
      rw [totalWeight_cons, add_comm] at hlt
      exact (ih (sub_nonneg.mpr (not_lt.mp hy)) (sub_lt_iff_lt_add.mpr hlt)).cons

/-- **No two elements share a point of the line.** -/
theorem HasShare.unique (hnonneg : ∀ z ∈ xs, 0 ≤ weight z) (h : HasShare weight xs draw x)
    (h' : HasShare weight xs draw y) : x = y := by
  induction xs generalizing draw with
  | nil => exact absurd h.mem List.not_mem_nil
  | cons z xs ih =>
    obtain ⟨hz, hxs⟩ := List.forall_mem_cons.mp hnonneg
    -- A share is the first one's or lies behind it.
    have hcases : ∀ {w}, HasShare weight (z :: xs) draw w →
        (w = z ∧ draw < weight z) ∨ (weight z ≤ draw ∧ HasShare weight xs (draw - weight z) w) := by
      rintro w ⟨before, after, heq, hle, hlt⟩
      cases before with
      | nil =>
        rw [totalWeight_nil, zero_add] at hlt
        obtain ⟨rfl, -⟩ := List.cons.inj heq
        exact .inl ⟨rfl, hlt⟩
      | cons v before =>
        obtain ⟨rfl, rfl⟩ := List.cons.inj heq
        rw [totalWeight_cons] at hle hlt
        have hbefore : 0 ≤ totalWeight weight before :=
          totalWeight_nonneg fun u hu => hxs u (List.mem_append_left _ hu)
        refine .inr ⟨(le_add_of_nonneg_right hbefore).trans hle, before, after, rfl, ?_, ?_⟩
        · rw [le_sub_iff_add_le, add_comm]
          exact hle
        · rw [sub_lt_iff_lt_add, add_comm, ← add_assoc]
          exact hlt
    rcases hcases h with ⟨rfl, hlt⟩ | ⟨hge, h⟩
    · rcases hcases h' with ⟨rfl, -⟩ | ⟨hge', -⟩
      · rfl
      · exact absurd hlt (not_lt.mpr hge')
    · rcases hcases h' with ⟨rfl, hlt'⟩ | ⟨-, h'⟩
      · exact absurd hlt' (not_lt.mpr hge)
      · exact ih hxs h h'

end Shares

section Order

variable {α κ : Type} [LinearOrder κ] {key : α → κ} {xs ys : List α}

/-- **What is in the order of distinct keys is listed in one way only.** -/
theorem insertionSort_eq_of_perm (h : xs.Perm ys) (hkeys : (xs.map key).Nodup) :
    xs.insertionSort (key · ≤ key ·) = ys.insertionSort (key · ≤ key ·) := by
  have : Std.Total (α := α) (key · ≤ key ·) := ⟨fun a b => le_total (key a) (key b)⟩
  have : IsTrans α (key · ≤ key ·) := ⟨fun _ _ _ => le_trans⟩
  have hperm := (List.perm_insertionSort (key · ≤ key ·) xs).trans
    (h.trans (List.perm_insertionSort (key · ≤ key ·) ys).symm)
  have hantisymm : ∀ a b, a ∈ xs.insertionSort (key · ≤ key ·) → b ∈ ys.insertionSort (key · ≤ key ·) →
      key a ≤ key b → key b ≤ key a → a = b := by
    intro a b ha hb hab hba
    have ha : a ∈ xs := (List.mem_insertionSort _).mp ha
    have hb : b ∈ xs := h.mem_iff.mpr ((List.mem_insertionSort _).mp hb)
    exact List.inj_on_of_nodup_map hkeys ha hb (le_antisymm hab hba)
  exact hperm.eq_of_pairwise hantisymm (List.pairwise_insertionSort _ _) (List.pairwise_insertionSort _ _)

end Order

end ManchesterArcana.Effect
