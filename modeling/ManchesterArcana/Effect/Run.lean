import Mathlib.Algebra.Order.Ring.Int
import Mathlib.Tactic.Common

/-!
# `Effect.Run` — finite runs of a labelled step relation

`Run step s as s'` says that the labels `as` lead from `s` to `s'` step by step. An induction over a run is
made once, here: what every step preserves, the run preserves (`Run.invariant`), and what every step mirrors
in another machine, the run mirrors (`Run.mirrors`).
-/

namespace ManchesterArcana.Effect

variable {σ τ α : Type}

/-- The labels `as`, taken in order, lead from `s` to `s'`. -/
inductive Run (step : σ → α → σ → Prop) : σ → List α → σ → Prop where
  | nil (s : σ) : Run step s [] s
  | cons {s s' s'' : σ} {a : α} {as : List α} :
      step s a s' → Run step s' as s'' → Run step s (a :: as) s''

namespace Run

variable {step : σ → α → σ → Prop}

/-- One more step at the end. -/
theorem snoc {s s' s'' : σ} {a : α} {as : List α} (h : Run step s as s') (hs : step s' a s'') :
    Run step s (as ++ [a]) s'' := by
  induction h with
  | nil s => exact .cons hs (.nil s'')
  | cons h _ ih => exact .cons h (ih hs)

/-- Runs compose. -/
theorem append {s s' s'' : σ} {as bs : List α} (h : Run step s as s') (h' : Run step s' bs s'') :
    Run step s (as ++ bs) s'' := by
  induction h with
  | nil s => exact h'
  | cons hs _ ih => exact .cons hs (ih h')

/-- A run whose labels end in `a` ends in a step labelled `a`. -/
theorem of_snoc {s s'' : σ} {a : α} {as : List α} (h : Run step s (as ++ [a]) s'') :
    ∃ s', Run step s as s' ∧ step s' a s'' := by
  induction as generalizing s with
  | nil =>
    cases h with
    | cons hs hr =>
      cases hr with
      | nil => exact ⟨s, .nil s, hs⟩
  | cons b as ih =>
    cases h with
    | cons hs hr =>
      obtain ⟨s', hrun, hlast⟩ := ih hr
      exact ⟨s', .cons hs hrun, hlast⟩

/-- A run taken apart. -/
theorem of_append {s s'' : σ} {as bs : List α} (h : Run step s (as ++ bs) s'') :
    ∃ s', Run step s as s' ∧ Run step s' bs s'' := by
  induction as generalizing s with
  | nil => exact ⟨s, .nil s, h⟩
  | cons a as ih =>
    cases h with
    | cons hs hr =>
      obtain ⟨s', hrun, hrest⟩ := ih hr
      exact ⟨s', .cons hs hrun, hrest⟩

/-- Where every step has one outcome, so has a run. -/
theorem unique (hstep : ∀ s a s₁ s₂, step s a s₁ → step s a s₂ → s₁ = s₂) {s s₁ s₂ : σ} {as : List α}
    (h₁ : Run step s as s₁) (h₂ : Run step s as s₂) : s₁ = s₂ := by
  induction h₁ with
  | nil s =>
    cases h₂ with
    | nil => rfl
  | cons hs _ ih =>
    cases h₂ with
    | cons hs' hr =>
      obtain rfl := hstep _ _ _ _ hs hs'
      exact ih hr

/-- A run of steps that imply others is a run of those. -/
theorem mono {step' : σ → α → σ → Prop} {s s' : σ} {as : List α} (h : Run step s as s')
    (hstep : ∀ s a s', step s a s' → step' s a s') : Run step' s as s' := by
  induction h with
  | nil s => exact .nil s
  | cons hst _ ih => exact .cons (hstep _ _ _ hst) ih

/-- **What every step preserves, the run preserves.** -/
theorem invariant {I : σ → Prop} (hstep : ∀ s a s', I s → step s a s' → I s') {s s' : σ} {as : List α}
    (h : Run step s as s') (hs : I s) : I s' := by
  induction h with
  | nil s => exact hs
  | cons hst _ ih => exact ih (hstep _ _ _ hs hst)

/-- **A machine that follows every step follows the run.** -/
theorem mirrors {R : σ → τ → Prop} {next : τ → α → τ}
    (hstep : ∀ s a s' t, R s t → step s a s' → R s' (next t a)) {s s' : σ} {as : List α}
    (h : Run step s as s') {t : τ} (hs : R s t) : R s' (as.foldl next t) := by
  induction h generalizing t with
  | nil s => exact hs
  | cons hst _ ih => exact ih (hstep _ _ _ _ hs hst)

/-- **An account that every step balances is balanced over the run.** -/
theorem balance {spent gained : α → Nat} {Φ : σ → Nat}
    (hstep : ∀ s a s', step s a s' → Φ s' + spent a = Φ s + gained a) {s s' : σ} {as : List α}
    (h : Run step s as s') : Φ s' + (as.map spent).sum = Φ s + (as.map gained).sum := by
  induction h with
  | nil s => rfl
  | @cons s s₁ s₂ a as hst _ ih =>
    have := hstep s a s₁ hst
    simp only [List.map_cons, List.sum_cons]
    omega

/-- What every step spends comes out of a budget that only `gained` adds to. -/
theorem budget {spent gained : α → Nat} {Φ : σ → Nat}
    (hstep : ∀ s a s', step s a s' → spent a + Φ s' ≤ Φ s + gained a) {s s' : σ} {as : List α}
    (h : Run step s as s') : (as.map spent).sum + Φ s' ≤ Φ s + (as.map gained).sum := by
  induction h with
  | nil s => exact Nat.le_of_eq (Nat.add_comm _ _)
  | @cons s s₁ s₂ a as hst _ ih =>
    have := hstep s a s₁ hst
    simp only [List.map_cons, List.sum_cons]
    omega

/-- A run whose labels all satisfy `P`, as a run of the steps that do. -/
theorem restrict {P : α → Prop} {s s' : σ} {as : List α} (h : Run step s as s') (hp : ∀ a ∈ as, P a) :
    Run (fun s a s' => step s a s' ∧ P a) s as s' := by
  induction h with
  | nil s => exact .nil s
  | cons hst _ ih =>
    obtain ⟨ha, has⟩ := List.forall_mem_cons.mp hp
    exact .cons ⟨hst, ha⟩ (ih has)

end Run

/-! ## Weighed runs -/

/-- A run, with the total of what its steps weigh. -/
inductive Tally (step : σ → α → σ → Prop) (w : σ → σ → Nat) : σ → List α → Nat → σ → Prop where
  | nil (s : σ) : Tally step w s [] 0 s
  | cons {s s' s'' : σ} {a : α} {as : List α} {n : Nat} :
      step s a s' → Tally step w s' as n s'' → Tally step w s (a :: as) (w s s' + n) s''

/-- **What every step takes out of a potential, the run takes out in total.** -/
theorem Tally.total_le {step : σ → α → σ → Prop} {w : σ → σ → Nat} {Φ : σ → Nat}
    (hstep : ∀ s a s', step s a s' → w s s' + Φ s' ≤ Φ s) {s s' : σ} {as : List α} {n : Nat}
    (h : Tally step w s as n s') : n + Φ s' ≤ Φ s := by
  induction h with
  | nil s => exact Nat.le_of_eq (Nat.zero_add _)
  | @cons s s₁ s₂ a as n hst _ ih =>
    have := hstep s a s₁ hst
    omega

/-- Every run can be weighed. -/
theorem Run.tally {step : σ → α → σ → Prop} {s s' : σ} {as : List α} (h : Run step s as s') (w : σ → σ → Nat) :
    ∃ n, Tally step w s as n s' := by
  induction h with
  | nil s => exact ⟨0, .nil s⟩
  | cons hst _ ih =>
    obtain ⟨n, hn⟩ := ih
    exact ⟨_, .cons hst hn⟩

/-- **What comes in at every step is spent or still there.** -/
theorem Tally.balance {step : σ → α → σ → Prop} {w : σ → σ → Nat} {spent : α → Nat} {Φ : σ → Nat}
    (hstep : ∀ s a s', step s a s' → Φ s + w s s' = Φ s' + spent a) {s s' : σ} {as : List α} {n : Nat}
    (h : Tally step w s as n s') : Φ s + n = Φ s' + (as.map spent).sum := by
  induction h with
  | nil s => rfl
  | @cons s s₁ s₂ a as n hst _ ih =>
    have := hstep s a s₁ hst
    simp only [List.map_cons, List.sum_cons]
    omega

end ManchesterArcana.Effect
