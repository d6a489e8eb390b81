import ManchesterArcana.Effect.Guard

/-!
# `Effect.Prog` — programs that consult an outside party

A `Prog` is a computation that may ask questions and continue from the answers: a finite tree whose nodes
are questions and whose leaves are results, errors or panics. It separates *what* the program does with the
answers from *who* answers: a stateful source can be run against it (`run`), a recorded transcript can be
replayed on it (`Returns`), and a property can be demanded of every admissible way of answering (`Always`).

* `Returns p t a` — asked and answered as the transcript `t` says, and nothing else, `p` returns `a`;
* `Always adm p Q` — whatever admissible answers it gets, `p` returns, and with a value in `Q`;
* `run_eq_ok` — a run against a source is a transcript that the source produces.

The three views agree on sequencing (`returns_bind`, `always_bind`), which is all that a proof about a
program needs: it takes the program apart bind by bind, never answer by answer.
-/

namespace ManchesterArcana.Effect

/-- A program over questions `ι` and answers `ρ` that fails with `ε` or returns `α`. A `panic` is an abort
    the program's author believed unreachable. -/
inductive Prog (ι ρ ε α : Type) where
  | ok (a : α)
  | err (e : ε)
  | panic (why : String)
  | ask (q : ι) (next : ρ → Prog ι ρ ε α)

/-- How a program that was run to its end ended. -/
inductive Outcome (ε α : Type) where
  | ok (a : α)
  | err (e : ε)
  | panic (why : String)

namespace Prog

variable {ι ρ ε ε' α β γ σ τ : Type}

/-- Sequencing: grow the continuation at every returning leaf. -/
def bind : Prog ι ρ ε α → (α → Prog ι ρ ε β) → Prog ι ρ ε β
  | ok a, f => f a
  | err e, _ => err e
  | panic w, _ => panic w
  | ask q k, f => ask q fun r => (k r).bind f

instance : Monad (Prog ι ρ ε) where
  pure := ok
  bind := bind

/-- Ask one question and return the answer. -/
def question (q : ι) : Prog ι ρ ε ρ := ask q ok

/-- A pure fallible computation asks nothing. -/
def lift : Except ε α → Prog ι ρ ε α
  | .ok a => ok a
  | .error e => err e

instance : MonadLift (Except ε) (Prog ι ρ ε) where
  monadLift := lift

/-- Fail with `e` exactly when `c` holds. -/
def reject (c : Prop) [Decidable c] (e : ε) : Prog ι ρ ε Unit :=
  if c then err e else ok ()

/-- The value of an option the author believed present. -/
def expect (o : Option α) (why : String) : Prog ι ρ ε α :=
  match o with
  | some a => ok a
  | none => panic why

/-- Relabel errors. -/
def mapErr (f : ε → ε') : Prog ι ρ ε α → Prog ι ρ ε' α
  | ok a => ok a
  | err e => err (f e)
  | panic w => panic w
  | ask q k => ask q fun r => (k r).mapErr f

/-- Run `p` against a source that answers from a state. The state is threaded through every answer, so it
    advances also when the program fails afterwards. -/
def run (answer : σ → ι → ρ × σ) : Prog ι ρ ε α → σ → Outcome ε α × σ
  | ok a, s => (.ok a, s)
  | err e, s => (.err e, s)
  | panic w, s => (.panic w, s)
  | ask q k, s => (k (answer s q).1).run answer (answer s q).2

/-! ## Sequencing is definitional at the leaves -/

@[simp] theorem pure_eq (a : α) : (pure a : Prog ι ρ ε α) = ok a := rfl
@[simp] theorem ok_bind (a : α) (f : α → Prog ι ρ ε β) : (ok a >>= f) = f a := rfl
@[simp] theorem err_bind (e : ε) (f : α → Prog ι ρ ε β) : (err e >>= f) = err e := rfl
@[simp] theorem panic_bind (w : String) (f : α → Prog ι ρ ε β) : (panic w >>= f) = panic w := rfl
@[simp] theorem ask_bind (q : ι) (k : ρ → Prog ι ρ ε α) (f : α → Prog ι ρ ε β) :
    (ask q k >>= f) = ask q fun r => k r >>= f := rfl
@[simp] theorem lift_ok (a : α) : (lift (.ok a) : Prog ι ρ ε α) = ok a := rfl
@[simp] theorem lift_error (e : ε) : (lift (.error e) : Prog ι ρ ε α) = err e := rfl
@[simp] theorem monadLift_eq (x : Except ε α) : (liftM x : Prog ι ρ ε α) = lift x := rfl

/-! A head that is known to go through steps aside. -/

variable {t : List (ι × ρ)} {a : α} {b : β} {f : α → Prog ι ρ ε β} {w : String} {x : Except ε α} {e : ε}
  {o : Option α} {p : Prog ι ρ ε α} {c : Prop}

theorem lift_bind_of_ok (h : x = .ok a) (f : α → Prog ι ρ ε β) :
    (lift x >>= f) = f a := by
  rw [h]
  rfl

theorem reject_bind_of_not [Decidable c] (h : ¬ c) (f : Unit → Prog ι ρ ε β) :
    (reject c e >>= f) = f () := by
  unfold reject
  rw [if_neg h]
  rfl

theorem expect_bind_of_some (h : o = some a) (f : α → Prog ι ρ ε β) :
    (expect o w >>= f) = f a := by
  rw [h]
  rfl

/-! ## Transcripts -/

/-- **`p`, asked and answered as `t` records, returns `a`.** -/
inductive Returns : Prog ι ρ ε α → List (ι × ρ) → α → Prop where
  | ok (a : α) : Returns (.ok a) [] a
  | ask (q : ι) (r : ρ) {k : ρ → Prog ι ρ ε α} {t : List (ι × ρ)} {a : α} :
      Returns (k r) t a → Returns (.ask q k) ((q, r) :: t) a

@[simp] theorem returns_ok {b : α} :
    Returns (ok a : Prog ι ρ ε α) t b ↔ t = [] ∧ b = a := by
  constructor
  · rintro ⟨⟩; exact ⟨rfl, rfl⟩
  · rintro ⟨rfl, rfl⟩; exact .ok _

/-- The second half of what is returned. -/
theorem Returns.snd_eq {a' : α} {b' : β}
    (h : Returns (Prog.ok (a, b) : Prog ι ρ ε (α × β)) t (a', b')) : b' = b :=
  congrArg Prod.snd (returns_ok.mp h).2

@[simp] theorem returns_err :
    ¬ Returns (err e : Prog ι ρ ε α) t a := nofun

@[simp] theorem returns_panic :
    ¬ Returns (panic w : Prog ι ρ ε α) t a := nofun

@[simp] theorem returns_ask {q : ι} {k : ρ → Prog ι ρ ε α} :
    Returns (ask q k) t a ↔ ∃ r t', t = (q, r) :: t' ∧ Returns (k r) t' a := by
  constructor
  · rintro ⟨⟩; exact ⟨_, _, rfl, ‹_›⟩
  · rintro ⟨r, t', rfl, h⟩; exact .ask q r h

/-- **The transcript of a sequence is the concatenation of its parts' transcripts.** -/
theorem returns_bind :
    Returns (p >>= f) t b ↔ ∃ t₁ t₂ a, t = t₁ ++ t₂ ∧ Returns p t₁ a ∧ Returns (f a) t₂ b := by
  induction p generalizing t with
  | ok a => simp
  | err e => simp
  | panic w => simp
  | ask q k ih =>
    simp only [ask_bind, returns_ask, ih]
    constructor
    · rintro ⟨r, t', rfl, t₁, t₂, a, rfl, hp, hf⟩
      exact ⟨(q, r) :: t₁, t₂, a, rfl, ⟨r, t₁, rfl, hp⟩, hf⟩
    · rintro ⟨_, t₂, a, rfl, ⟨r, t₁, rfl, hp⟩, hf⟩
      exact ⟨r, t₁ ++ t₂, rfl, t₁, t₂, a, rfl, hp, hf⟩

@[simp] theorem returns_lift :
    Returns (lift x : Prog ι ρ ε α) t a ↔ t = [] ∧ x = .ok a := by
  cases x <;> simp [lift, eq_comm]

@[simp] theorem returns_mapErr {f : ε → ε'} :
    Returns (p.mapErr f) t a ↔ Returns p t a := by
  induction p generalizing t with
  | ok b => simp [mapErr]
  | err e => simp [mapErr]
  | panic w => simp [mapErr]
  | ask q k ih => simp [mapErr, ih]

/-- A sequence whose head is a pure step, in the form a case analysis consumes. -/
theorem returns_lift_bind :
    Returns (lift x >>= f) t b ↔ ∃ a, x = .ok a ∧ Returns (f a) t b := by
  cases x <;> simp [lift]

theorem returns_reject_bind [Decidable c] {f : Unit → Prog ι ρ ε β} :
    Returns (reject c e >>= f) t b ↔ ¬ c ∧ Returns (f ()) t b := by
  unfold reject
  split <;> simp_all

theorem returns_expect_bind :
    Returns (expect o w >>= f) t b ↔ ∃ a, o = some a ∧ Returns (f a) t b := by
  cases o <;> simp [expect]

/-! ### Taking a run apart -/

theorem Returns.of_ok {b : α} (h : Returns (Prog.ok a : Prog ι ρ ε α) t b) : t = [] ∧ b = a :=
  returns_ok.mp h

theorem Returns.bind
    (h : Returns (p >>= f) t b) : ∃ t₁ t₂ a, t = t₁ ++ t₂ ∧ Returns p t₁ a ∧ Returns (f a) t₂ b := returns_bind.mp h

theorem Returns.lift
    (h : Returns (Prog.lift x >>= f) t b) : ∃ a, x = .ok a ∧ Returns (f a) t b := returns_lift_bind.mp h

theorem Returns.reject [Decidable c] {f : Unit → Prog ι ρ ε β}
    (h : Returns (Prog.reject c e >>= f) t b) : ¬ c ∧ Returns (f ()) t b := returns_reject_bind.mp h

theorem Returns.expect
    (h : Returns (Prog.expect o w >>= f) t b) : ∃ a, o = some a ∧ Returns (f a) t b := returns_expect_bind.mp h

theorem Returns.lift_of_ok
    (h : Returns (Prog.lift x >>= f) t b) (hx : x = .ok a) : Returns (f a) t b := by
  obtain ⟨a', ha', h⟩ := h.lift
  cases hx.symm.trans ha'
  exact h

theorem Returns.expect_of_some
    (h : Returns (Prog.expect o w >>= f) t b) (ho : o = some a) : Returns (f a) t b := by
  obtain ⟨a', ha', h⟩ := h.expect
  cases ho.symm.trans ha'
  exact h

theorem Returns.of_mapErr {f : ε → ε'}
    (h : Returns (p.mapErr f) t a) : Returns p t a := returns_mapErr.mp h

/-- Take the answers from a transcript; `none` unless it is asked for exactly what it records. -/
def replay [DecidableEq ι] : Prog ι ρ ε α → List (ι × ρ) → Option α
  | ok a, [] => some a
  | ask q k, (q', r) :: t => if q' = q then (k r).replay t else none
  | _, _ => none

/-- **Replaying a transcript decides what is returned along it.** -/
theorem replay_eq_some [DecidableEq ι] :
    p.replay t = some a ↔ Returns p t a := by
  induction p generalizing t with
  | ok b => cases t <;> simp [replay, eq_comm]
  | err e => simp [replay]
  | panic w => simp [replay]
  | ask q k ih =>
    rcases t with _ | ⟨⟨q', r⟩, t⟩
    · simp [replay]
    · by_cases hq : q' = q
      · subst hq
        simp [replay, ih]
      · simp [replay, hq]

/-! ## Running against a source -/

/-- `Feeds answer s t s'`: asked the questions of `t` in order from state `s`, the source gives exactly the
    answers of `t` and is left in `s'`. -/
inductive Feeds (answer : σ → ι → ρ × σ) : σ → List (ι × ρ) → σ → Prop where
  | nil (s : σ) : Feeds answer s [] s
  | cons (s : σ) (q : ι) {t : List (ι × ρ)} {s' : σ} :
      Feeds answer (answer s q).2 t s' → Feeds answer s ((q, (answer s q).1) :: t) s'

section Feeds
variable {answer : σ → ι → ρ × σ}

variable {s s' : σ}

@[simp] theorem feeds_nil : Feeds answer s [] s' ↔ s' = s := by
  constructor
  · rintro ⟨⟩; rfl
  · rintro rfl; exact .nil _

theorem feeds_cons {q : ι} {r : ρ} {t : List (ι × ρ)} :
    Feeds answer s ((q, r) :: t) s' ↔ r = (answer s q).1 ∧ Feeds answer (answer s q).2 t s' := by
  constructor
  · rintro ⟨⟩; exact ⟨rfl, ‹_›⟩
  · rintro ⟨rfl, h⟩; exact .cons s q h

/-- **A run that returns is a transcript the source produced, and conversely.** -/
theorem run_eq_ok {p : Prog ι ρ ε α} {a : α} :
    p.run answer s = (.ok a, s') ↔ ∃ t, Returns p t a ∧ Feeds answer s t s' := by
  induction p generalizing s with
  | ok b => simp [run, eq_comm, and_comm]
  | err e => simp [run]
  | panic w => simp [run]
  | ask q k ih =>
    simp only [run, ih, returns_ask]
    constructor
    · rintro ⟨t, hk, hf⟩
      exact ⟨_, ⟨_, t, rfl, hk⟩, .cons s q hf⟩
    · rintro ⟨_, ⟨r, t, rfl, hk⟩, hf⟩
      obtain ⟨rfl, hrest⟩ := feeds_cons.mp hf
      exact ⟨t, hk, hrest⟩

/-- Two sources that answer alike along one transcript return alike. -/
theorem Feeds.run {p : Prog ι ρ ε α} {t : List (ι × ρ)} {a : α}
    (hp : Returns p t a) (hf : Feeds answer s t s') : p.run answer s = (.ok a, s') :=
  run_eq_ok.mpr ⟨t, hp, hf⟩

end Feeds

/-! ## Every admissible way of answering -/

/-- **However it is answered within `adm`, `p` returns a value in `Q`**: no error, no panic. -/
def Always (adm : ι → ρ → Prop) : Prog ι ρ ε α → (α → Prop) → Prop
  | ok a, Q => Q a
  | err _, _ => False
  | panic _, _ => False
  | ask q k, Q => ∀ r, adm q r → Always adm (k r) Q

section Always
variable {adm : ι → ρ → Prop}

@[simp] theorem always_ok {a : α} {Q : α → Prop} : Always adm (ok a : Prog ι ρ ε α) Q ↔ Q a := Iff.rfl
@[simp] theorem always_err {e : ε} {Q : α → Prop} : ¬ Always adm (err e : Prog ι ρ ε α) Q := id
@[simp] theorem always_panic {w : String} {Q : α → Prop} :
    ¬ Always adm (panic w : Prog ι ρ ε α) Q := id
@[simp] theorem always_ask {q : ι} {k : ρ → Prog ι ρ ε α} {Q : α → Prop} :
    Always adm (ask q k) Q ↔ ∀ r, adm q r → Always adm (k r) Q := Iff.rfl

variable {Q : α → Prop} {p : Prog ι ρ ε α}

/-- **The weakest-precondition rule for sequencing.** -/
theorem always_bind {f : α → Prog ι ρ ε β} {Q : β → Prop} :
    Always adm (p >>= f) Q ↔ Always adm p fun a => Always adm (f a) Q := by
  induction p with
  | ok a => exact Iff.rfl
  | err e => exact Iff.rfl
  | panic w => exact Iff.rfl
  | ask q k ih => exact forall_congr' fun r => imp_congr_right fun _ => ih r

theorem Always.mono {Q' : α → Prop} (h : Always adm p Q)
    (hQ : ∀ a, Q a → Q' a) : Always adm p Q' := by
  induction p with
  | ok a => exact hQ a h
  | err e => exact h
  | panic w => exact h
  | ask q k ih => exact fun r hr => ih r (h r hr)

@[simp] theorem always_lift {x : Except ε α} :
    Always adm (lift x : Prog ι ρ ε α) Q ↔ ∃ a, x = .ok a ∧ Q a := by
  cases x <;> simp [lift]

@[simp] theorem always_reject {c : Prop} [Decidable c] {e : ε} {Q : Unit → Prop} :
    Always adm (reject c e : Prog ι ρ ε Unit) Q ↔ ¬ c ∧ Q () := by
  unfold reject
  split <;> simp_all

@[simp] theorem always_expect {o : Option α} {w : String} :
    Always adm (expect o w : Prog ι ρ ε α) Q ↔ ∃ a, o = some a ∧ Q a := by
  cases o <;> simp [expect]

@[simp] theorem always_mapErr {f : ε → ε'} :
    Always adm (p.mapErr f) Q ↔ Always adm p Q := by
  induction p with
  | ok a => exact Iff.rfl
  | err e => exact Iff.rfl
  | panic w => exact Iff.rfl
  | ask q k ih => exact forall_congr' fun r => imp_congr_right fun _ => ih r

/-- A transcript whose answers are all admissible. -/
def Admissible (adm : ι → ρ → Prop) (t : List (ι × ρ)) : Prop :=
  ∀ x ∈ t, adm x.1 x.2

theorem Always.of_returns {t : List (ι × ρ)} {a : α}
    (h : Always adm p Q) (hp : Returns p t a) (ht : Admissible adm t) : Q a := by
  induction hp with
  | ok a => exact h
  | ask q r _ ih =>
    exact ih (h r (ht (q, r) (by simp))) fun x hx => ht x (by simp [hx])

end Always

end Prog

end ManchesterArcana.Effect
