import Mathlib.Algebra.Order.Ring.Int
import Mathlib.Tactic.Common

/-!
# `Effect.Guard` — fallible checks in `Except`, and what it means for them to pass

A validator is a sequence of guards, each of which either falls through or fails with its own error. The
only question a proof ever asks of such a sequence is when it falls through to the end, so every combinator
here comes with one `_eq_ok` lemma; together they turn `validate x = .ok ()` into the conjunction of the
negated guards. Nothing in this file mentions what is being checked.
-/

namespace ManchesterArcana.Effect

variable {ε ε' α β : Type}

/-- Fail with `e` exactly when `c` holds. -/
def rejectIf (c : Prop) [Decidable c] (e : ε) : Except ε Unit :=
  if c then .error e else .ok ()

/-- The value of an option, or the error `e` when it is absent. -/
def okOr (o : Option α) (e : ε) : Except ε α :=
  match o with
  | some a => .ok a
  | none => .error e

/-- Run `check` on every element in order; the first failure is the result. -/
def checkAll (check : α → Except ε Unit) : List α → Except ε Unit
  | [] => .ok ()
  | a :: as => do
    check a
    checkAll check as

/-- Collect the results of `f` over a list, in order; the first failure is the result. -/
def gather (f : α → Except ε (List β)) : List α → Except ε (List β)
  | [] => .ok []
  | a :: as => do
    let bs ← f a
    let rest ← gather f as
    return bs ++ rest

variable {e : ε} {a : α} {c : Prop} {f : α → Except ε β} {x : Except ε α} {b : β}

@[simp] theorem rejectIf_eq_ok [Decidable c] {u : Unit} :
    rejectIf c e = .ok u ↔ ¬ c := by
  unfold rejectIf
  split <;> simp_all

@[simp] theorem rejectIf_eq_error [Decidable c] {e' : ε} :
    rejectIf c e = .error e' ↔ c ∧ e = e' := by
  unfold rejectIf
  split <;> simp_all

theorem rejectIf_of_not [Decidable c] (h : ¬ c) : rejectIf c e = .ok () :=
  if_neg h

@[simp] theorem okOr_eq_ok {o : Option α} : okOr o e = .ok a ↔ o = some a := by
  cases o <;> simp [okOr]

@[simp] theorem okOr_some : okOr (some a) e = .ok a := rfl

@[simp] theorem okOr_none : okOr (none : Option α) e = .error e := rfl

@[simp] theorem ok_bind : ((.ok a : Except ε α) >>= f) = f a := rfl

@[simp] theorem error_bind :
    ((.error e : Except ε α) >>= f) = .error e := rfl

@[simp] theorem pure_eq : (pure a : Except ε α) = .ok a := rfl

/-- **A sequence succeeds when its head does and its tail does on the head's value.** -/
@[simp] theorem bind_eq_ok :
    (x >>= f) = .ok b ↔ ∃ a, x = .ok a ∧ f a = .ok b := by
  cases x with
  | error e => simp [bind, Except.bind]
  | ok a => simp [bind, Except.bind]

theorem exists_unit {p : Unit → Prop} : (∃ u, p u) ↔ p () := ⟨fun ⟨(), h⟩ => h, fun h => ⟨(), h⟩⟩

/-- The same for a head that is only a check. -/
theorem seq_eq_ok {x : Except ε Unit} {f : Unit → Except ε β} :
    (x >>= f) = .ok b ↔ x = .ok () ∧ f () = .ok b :=
  bind_eq_ok.trans exists_unit

@[simp] theorem mapError_eq_ok {f : ε → ε'} :
    x.mapError f = .ok a ↔ x = .ok a := by
  cases x <;> simp [Except.mapError]

@[simp] theorem checkAll_eq_ok {check : α → Except ε Unit} {as : List α} {u : Unit} :
    checkAll check as = .ok u ↔ ∀ a ∈ as, check a = .ok () := by
  induction as with
  | nil => simp [checkAll]
  | cons a as ih => rw [checkAll, seq_eq_ok, ih, List.forall_mem_cons]

/-! ## Lists known by their members -/

/-- `x` succeeds, with a list whose members are exactly the elements in `P`. -/
def Yields (x : Except ε (List β)) (P : β → Prop) : Prop := ∃ bs, x = .ok bs ∧ ∀ b, b ∈ bs ↔ P b

namespace Yields

variable {x : Except ε (List β)} {P Q : β → Prop}

theorem ok {bs : List β} (h : ∀ b, b ∈ bs ↔ P b) : Yields (.ok bs : Except ε (List β)) P := ⟨bs, rfl, h⟩

theorem congr (h : Yields x P) (hPQ : ∀ b, P b ↔ Q b) : Yields x Q := by
  obtain ⟨bs, hx, hP⟩ := h
  exact ⟨bs, hx, fun b => (hP b).trans (hPQ b)⟩

/-- **What is gathered has the members that one of the elements contributes.** -/
theorem gather {f : α → Except ε (List β)} {P : α → β → Prop} {as : List α}
    (h : ∀ a ∈ as, Yields (f a) (P a)) : Yields (gather f as) fun b => ∃ a ∈ as, P a b := by
  induction as with
  | nil => exact .ok (by simp)
  | cons a as ih =>
    obtain ⟨bs, hbs, hP⟩ := h a List.mem_cons_self
    obtain ⟨rest, hrest, hQ⟩ := ih fun b hb => h b (List.mem_cons_of_mem a hb)
    refine ⟨bs ++ rest, ?_, fun b => ?_⟩
    · rw [Effect.gather, hbs, hrest]
      rfl
    · simp only [List.mem_append, hP, hQ, List.mem_cons, exists_eq_or_imp]

end Yields

end ManchesterArcana.Effect
