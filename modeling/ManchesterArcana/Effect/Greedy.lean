import Mathlib.Algebra.Order.Ring.Int
import Mathlib.Data.List.Sort

/-!
# `Effect.Greedy` — spending a budget on the cheapest first

Things with prices stand in a list, and a budget is spent on them in order until the next is too dear. What is
bought is the longest prefix that the budget covers (`prefix_affordable_iff`). If the list is sorted by price,
nothing that can be bought out of it is more numerous (`length_le_affordable`): the cheapest `k` cost no more
than any `k` of them (`sum_take_le_of_subperm`).
-/

namespace ManchesterArcana.Effect

variable {α : Type} (price : α → Nat)

/-- What a list costs. -/
def cost (l : List α) : Nat := (l.map price).sum

/-- Buy in order; the first that is too dear ends it. -/
def affordable : Nat → List α → List α
  | _, [] => []
  | budget, a :: as => if price a > budget then [] else a :: affordable (budget - price a) as

variable {price}

@[simp] theorem cost_nil : cost price [] = 0 := rfl

@[simp] theorem cost_cons (a : α) (as : List α) : cost price (a :: as) = price a + cost price as := by
  unfold cost
  rw [List.map_cons, List.sum_cons]

variable {l s l' : List α} {budget : Nat}

theorem cost_perm (h : l.Perm l') : cost price l = cost price l' := (h.map price).sum_nat

/-- A prefix is no dearer than the list. -/
theorem cost_prefix_le (h : l <+: l') : cost price l ≤ cost price l' := by
  obtain ⟨rest, rfl⟩ := h
  unfold cost
  rw [List.map_append, List.sum_append]
  exact Nat.le_add_right _ _

/-! ## The longest prefix -/

theorem affordable_isPrefix (budget : Nat) (l : List α) : affordable price budget l <+: l := by
  induction l generalizing budget with
  | nil => exact List.prefix_rfl
  | cons a as ih =>
    unfold affordable
    split
    · exact List.nil_prefix
    · exact List.cons_prefix_cons.mpr ⟨rfl, ih _⟩

theorem cost_affordable_le (budget : Nat) (l : List α) : cost price (affordable price budget l) ≤ budget := by
  induction l generalizing budget with
  | nil => exact Nat.zero_le _
  | cons a as ih =>
    unfold affordable
    split
    · exact Nat.zero_le _
    · next hle =>
      have hrest := ih (budget - price a)
      rw [cost_cons]
      omega

/-- **A prefix is affordable exactly when it is a prefix of what is bought.** -/
theorem prefix_affordable_iff {p : List α} (hp : p <+: l) :
    cost price p ≤ budget ↔ p <+: affordable price budget l := by
  constructor
  · intro hle
    induction l generalizing budget p with
    | nil =>
      obtain rfl := List.prefix_nil.mp hp
      exact List.nil_prefix
    | cons a as ih =>
      cases p with
      | nil => exact List.nil_prefix
      | cons b p =>
        obtain ⟨rfl, hp'⟩ := List.cons_prefix_cons.mp hp
        rw [cost_cons] at hle
        unfold affordable
        rw [if_neg (by omega)]
        exact List.cons_prefix_cons.mpr ⟨rfl, ih hp' (by omega)⟩
  · intro h
    exact (cost_prefix_le h).trans (cost_affordable_le budget l)

/-! ## The cheapest first -/

/-- One thing more costs at least as much as the cheapest. -/
theorem cost_take_succ_ge {a : α} (hmin : ∀ b ∈ l, price a ≤ price b) {k : Nat} (hk : k < l.length) :
    price a + cost price (l.take k) ≤ cost price (l.take (k + 1)) := by
  rw [List.take_succ_eq_append_getElem hk]
  unfold cost
  rw [List.map_append, List.sum_append, List.map_singleton, List.sum_singleton]
  have hle := hmin l[k] (List.getElem_mem hk)
  omega

/-- The cheapest `k` of a sorted list cost no more than any `k` of it, in order. -/
theorem cost_take_le_of_sublist (hl : l.Pairwise fun a b => price a ≤ price b) (hs : s.Sublist l) :
    cost price (l.take s.length) ≤ cost price s := by
  induction hs with
  | slnil => exact le_rfl
  | @cons s l a hs ih =>
    obtain ⟨hmin, hl'⟩ := List.pairwise_cons.mp hl
    cases s with
    | nil => exact Nat.zero_le _
    | cons b s =>
      -- the head is skipped, and it is cheaper than the last that is taken instead
      have hlt : s.length < l.length := hs.length_le
      have hswap := cost_take_succ_ge hmin hlt
      rw [List.length_cons, List.take_succ_cons, cost_cons]
      exact hswap.trans (ih hl')
  | @cons_cons s l a hs ih =>
    rw [List.length_cons, List.take_succ_cons, cost_cons, cost_cons]
    exact Nat.add_le_add_left (ih (List.pairwise_cons.mp hl).2) _

theorem cost_take_le_of_subperm (hl : l.Pairwise fun a b => price a ≤ price b) (hs : s.Subperm l) :
    cost price (l.take s.length) ≤ cost price s := by
  obtain ⟨s', hperm, hsub⟩ := hs
  rw [← hperm.length_eq, ← cost_perm hperm]
  exact cost_take_le_of_sublist hl hsub

/-- **Nothing affordable out of a sorted list is more numerous than what is bought cheapest first.** -/
theorem length_le_affordable (hl : l.Pairwise fun a b => price a ≤ price b)
    (hs : s.Subperm l) (hle : cost price s ≤ budget) : s.length ≤ (affordable price budget l).length := by
  have hinitial : l.take s.length <+: affordable price budget l :=
    (prefix_affordable_iff (List.take_prefix _ _)).mp ((cost_take_le_of_subperm hl hs).trans hle)
  have hlength := hinitial.length_le
  rwa [List.length_take, Nat.min_eq_left hs.length_le] at hlength

end ManchesterArcana.Effect
