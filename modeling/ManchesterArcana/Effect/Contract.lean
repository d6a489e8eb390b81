import ManchesterArcana.Effect.Prog

/-!
# `Effect.Contract` — how a program may end

`Always` asks for a result of every run. A program that may fail keeps a weaker contract: it does not panic,
what it returns lies in `Q`, and what it fails with lies in `E`. `Meets adm p Q E` says so of every admissible
way of answering, and takes a program apart bind by bind like the other views.
-/

namespace ManchesterArcana.Effect

namespace Prog

variable {ι ρ ε ε' α β σ : Type} {adm : ι → ρ → Prop}

/-- **However it is answered within `adm`, `p` does not panic**, returns only in `Q` and fails only in `E`. -/
def Meets (adm : ι → ρ → Prop) : Prog ι ρ ε α → (α → Prop) → (ε → Prop) → Prop
  | ok a, Q, _ => Q a
  | err e, _, E => E e
  | panic _, _, _ => False
  | ask q k, Q, E => ∀ r, adm q r → Meets adm (k r) Q E

section Rules

variable {Q Q' : α → Prop} {E E' : ε → Prop}

@[simp] theorem meets_ok {a : α} : Meets adm (ok a : Prog ι ρ ε α) Q E ↔ Q a := Iff.rfl
@[simp] theorem meets_err {e : ε} : Meets adm (err e : Prog ι ρ ε α) Q E ↔ E e := Iff.rfl
@[simp] theorem meets_panic {w : String} : ¬ Meets adm (panic w : Prog ι ρ ε α) Q E := id
@[simp] theorem meets_ask {q : ι} {k : ρ → Prog ι ρ ε α} :
    Meets adm (ask q k) Q E ↔ ∀ r, adm q r → Meets adm (k r) Q E := Iff.rfl

variable {p : Prog ι ρ ε α} {f : α → Prog ι ρ ε β}

/-- **The rule for sequencing.** The second part owes its contract wherever the first one returns. -/
theorem meets_bind {Q : β → Prop} :
    Meets adm (p >>= f) Q E ↔ Meets adm p (fun a => Meets adm (f a) Q E) E := by
  induction p with
  | ok a => exact Iff.rfl
  | err e => exact Iff.rfl
  | panic w => exact Iff.rfl
  | ask q k ih => exact forall_congr' fun r => imp_congr_right fun _ => ih r

theorem Meets.mono (h : Meets adm p Q E) (hQ : ∀ a, Q a → Q' a) (hE : ∀ e, E e → E' e) :
    Meets adm p Q' E' := by
  induction p with
  | ok a => exact hQ a h
  | err e => exact hE e h
  | panic w => exact h
  | ask q k ih => exact fun r hr => ih r (h r hr)

theorem meets_lift {x : Except ε α} :
    Meets adm (lift x : Prog ι ρ ε α) Q E ↔ (∀ a, x = .ok a → Q a) ∧ ∀ e, x = .error e → E e := by
  cases x <;> simp [lift]

/-- A pure check fails into the contract, or goes on. -/
theorem meets_lift_bind {x : Except ε α} {Q : β → Prop} :
    Meets adm (lift x >>= f) Q E ↔ (∀ a, x = .ok a → Meets adm (f a) Q E) ∧ ∀ e, x = .error e → E e := by
  rw [meets_bind, meets_lift]

theorem meets_reject_bind {c : Prop} [Decidable c] {e : ε} {f : Unit → Prog ι ρ ε β} {Q : β → Prop} :
    Meets adm (reject c e >>= f) Q E ↔ (¬ c → Meets adm (f ()) Q E) ∧ (c → E e) := by
  unfold reject
  by_cases hc : c
  · rw [if_pos hc]
    exact ⟨fun h => ⟨fun hn => absurd hc hn, fun _ => h⟩, fun h => h.2 hc⟩
  · rw [if_neg hc]
    exact ⟨fun h => ⟨fun _ => h, fun hn => absurd hn hc⟩, fun h => h.1 hc⟩

/-- What the author believed present has to be. -/
theorem meets_expect_bind {o : Option α} {w : String} {Q : β → Prop} :
    Meets adm (expect o w >>= f) Q E ↔ ∃ a, o = some a ∧ Meets adm (f a) Q E := by
  cases o <;> simp [expect]

theorem meets_mapErr {f : ε → ε'} {E : ε' → Prop} :
    Meets adm (p.mapErr f) Q E ↔ Meets adm p Q fun e => E (f e) := by
  induction p with
  | ok a => exact Iff.rfl
  | err e => exact Iff.rfl
  | panic w => exact Iff.rfl
  | ask q k ih => exact forall_congr' fun r => imp_congr_right fun _ => ih r

/-- What is returned along an admissible transcript lies in the contract. -/
theorem Meets.of_returns {t : List (ι × ρ)} {a : α} (h : Meets adm p Q E)
    (hp : Returns p t a) (ht : Admissible adm t) : Q a := by
  induction hp with
  | ok a => exact h
  | ask q r _ ih =>
    exact ih (h r (ht (q, r) (by simp))) fun x hx => ht x (by simp [hx])

end Rules

end Prog

/-- An outcome that keeps a contract. -/
def Outcome.Within {ε α : Type} (Q : α → Prop) (E : ε → Prop) : Outcome ε α → Prop
  | .ok a => Q a
  | .err e => E e
  | .panic _ => False

/-- **Against a source that only ever gives admissible answers, the outcome keeps the contract.** -/
theorem Prog.Meets.run {ι ρ ε α σ : Type} {adm : ι → ρ → Prop} {answer : σ → ι → ρ × σ} {p : Prog ι ρ ε α}
    {Q : α → Prop} {E : ε → Prop} (h : p.Meets adm Q E) (hs : ∀ s q, adm q (answer s q).1) (s : σ) :
    (p.run answer s).1.Within Q E := by
  induction p generalizing s with
  | ok a => exact h
  | err e => exact h
  | panic w => exact h
  | ask q k ih => exact ih _ (h _ (hs s q)) _

end ManchesterArcana.Effect
