import ManchesterArcana.Effect.Prog
import ManchesterArcana.Effect.Run

/-!
# `Effect.Pool` — programs that share a store

Programs are started for jobs, any number of them at any time, and ask their questions of one shared store.
The store answers one question at a time, of whichever program; between two answers it may also move on its
own. Nothing is assumed about fairness or about how many programs run.

A program is verified against what the others can do to the store, not against the others: a `Rely` names an
invariant of the store, a preorder that every change follows, and the questions that a job may ask.
`Attends` is the program's side of the contract, taken apart bind by bind (`attends_bind`), and
`Pool.attended` is the conclusion: in every reachable pool every program is still within its contract, and
what has returned satisfies its postcondition in the store as it is then.
-/

namespace ManchesterArcana.Effect

variable {σ ι ρ ε α β μ : Type}

/-- A shared store: what a question can be answered and where that leaves it, and how it moves by itself. -/
structure Service (σ ι ρ : Type) where
  serves : σ → ι → ρ → σ → Prop
  drifts : σ → σ → Prop

/-- The store, and every program that was started, with the job it was started for. -/
structure Pool (σ μ ι ρ ε α : Type) where
  store : σ
  attempts : List (μ × Prog ι ρ ε α)

/-- What happens in one step. -/
inductive Move (μ ι ρ : Type) where
  | arrive (job : μ)
  | serve (job : μ) (q : ι) (r : ρ)
  | drift

/-- One program starts, one question is answered, or the store moves by itself. -/
inductive Pool.Step (service : Service σ ι ρ) (body : μ → Prog ι ρ ε α) :
    Pool σ μ ι ρ ε α → Move μ ι ρ → Pool σ μ ι ρ ε α → Prop where
  | arrive (s : σ) (attempts : List (μ × Prog ι ρ ε α)) (job : μ) :
      Step service body ⟨s, attempts⟩ (.arrive job) ⟨s, attempts ++ [(job, body job)]⟩
  | serve {s s' : σ} {before after : List (μ × Prog ι ρ ε α)} {job : μ} {q : ι} {r : ρ}
      {next : ρ → Prog ι ρ ε α} :
      service.serves s q r s' →
      Step service body ⟨s, before ++ (job, .ask q next) :: after⟩ (.serve job q r)
        ⟨s', before ++ (job, next r) :: after⟩
  | drift {s s' : σ} {attempts : List (μ × Prog ι ρ ε α)} :
      service.drifts s s' → Step service body ⟨s, attempts⟩ .drift ⟨s', attempts⟩

/-- **What every party relies on and has to keep**: an invariant of the store, the order in which it grows,
    and the questions that a job may ask of it. -/
structure Rely (service : Service σ ι ρ) (μ : Type) where
  inv : σ → Prop
  later : σ → σ → Prop
  may : μ → σ → ι → Prop
  refl : ∀ s, later s s
  trans : ∀ {s s' s''}, later s s' → later s' s'' → later s s''
  serve : ∀ {job s q r s'}, inv s → may job s q → service.serves s q r s' → inv s' ∧ later s s'
  drift : ∀ {s s'}, inv s → service.drifts s s' → inv s' ∧ later s s'

variable {service : Service σ ι ρ} (rely : Rely service μ) (job : μ)

/-- **From `s` on, `p` only asks what its job may ask, and what it returns satisfies `Q`** in the store at
    every later time. Nothing is promised of errors. -/
def Attends : Prog ι ρ ε α → σ → (α → σ → Prop) → Prop
  | .ok a, s, Q => ∀ s', rely.later s s' → rely.inv s' → Q a s'
  | .err _, _, _ => True
  | .panic _, _, _ => True
  | .ask q k, s, Q => ∀ s', rely.later s s' → rely.inv s' →
      rely.may job s' q ∧ ∀ r s'', service.serves s' q r s'' → Attends (k r) s'' Q

variable {rely} {job}

variable {s : σ} {Q : α → σ → Prop} {p : Prog ι ρ ε α}

@[simp] theorem attends_ok {a : α} :
    Attends rely job (.ok a : Prog ι ρ ε α) s Q ↔ ∀ s', rely.later s s' → rely.inv s' → Q a s' := Iff.rfl

variable {e : ε} {f : α → Prog ι ρ ε β} {x : Except ε α}

@[simp] theorem attends_err :
    Attends rely job (.err e : Prog ι ρ ε α) s Q := trivial

@[simp] theorem attends_panic {w : String} :
    Attends rely job (.panic w : Prog ι ρ ε α) s Q := trivial

/-- A contract entered into at `s` still stands at any later time. -/
theorem Attends.later {s' : σ} (h : Attends rely job p s Q)
    (hs : rely.later s s') : Attends rely job p s' Q := by
  cases p with
  | ok a => exact fun s'' hs' hi => h s'' (rely.trans hs hs') hi
  | err e => trivial
  | panic w => trivial
  | ask q k => exact fun s'' hs' hi => h s'' (rely.trans hs hs') hi

theorem Attends.mono {Q' : α → σ → Prop} (h : Attends rely job p s Q)
    (hQ : ∀ a s', rely.inv s' → Q a s' → Q' a s') : Attends rely job p s Q' := by
  induction p generalizing s with
  | ok a => exact fun s' hs hi => hQ a s' hi (h s' hs hi)
  | err e => trivial
  | panic w => trivial
  | ask q k ih =>
    intro s' hs hi
    obtain ⟨hmay, hk⟩ := h s' hs hi
    exact ⟨hmay, fun r s'' hr => ih r (hk r s'' hr)⟩

/-- **The rule for sequencing.** -/
theorem attends_bind {Q : β → σ → Prop} (hs : rely.inv s)
    (h : Attends rely job p s fun a s' => Attends rely job (f a) s' Q) : Attends rely job (p >>= f) s Q := by
  induction p generalizing s with
  | ok a => exact h s (rely.refl s) hs
  | err e => trivial
  | panic w => trivial
  | ask q k ih =>
    intro s' hl hi
    obtain ⟨hmay, hk⟩ := h s' hl hi
    refine ⟨hmay, fun r s'' hr => ?_⟩
    have hi' := (rely.serve hi hmay hr).1
    exact ih r hi' (hk r s'' hr)

/-- A pure step aside. -/
theorem attends_lift_bind {Q : β → σ → Prop}
    (h : ∀ a, x = .ok a → Attends rely job (f a) s Q) : Attends rely job (Prog.lift x >>= f) s Q := by
  cases x with
  | error e => trivial
  | ok a => exact h a rfl

theorem attends_lift
    (h : ∀ a, x = .ok a → ∀ s', rely.later s s' → rely.inv s' → Q a s') :
    Attends rely job (Prog.lift x : Prog ι ρ ε α) s Q := by
  cases x with
  | error e => trivial
  | ok a => exact h a rfl

theorem attends_reject_bind {c : Prop} [Decidable c] {f : Unit → Prog ι ρ ε β}
    {Q : β → σ → Prop} (h : ¬ c → Attends rely job (f ()) s Q) :
    Attends rely job (Prog.reject c e >>= f) s Q := by
  by_cases hc : c
  · rw [Prog.reject, if_pos hc]
    trivial
  · rw [Prog.reject_bind_of_not hc]
    exact h hc

/-- **A question**: it may be asked whenever it comes to be asked, and every answer is provided for. -/
theorem attends_ask {q : ι} {k : ρ → Prog ι ρ ε α}
    (h : ∀ s', rely.later s s' → rely.inv s' → rely.may job s' q ∧
      ∀ r s'', service.serves s' q r s'' → rely.inv s'' → rely.later s' s'' → Attends rely job (k r) s'' Q) :
    Attends rely job (.ask q k) s Q := by
  intro s' hl hi
  obtain ⟨hmay, hk⟩ := h s' hl hi
  refine ⟨hmay, fun r s'' hr => ?_⟩
  obtain ⟨hi', hl'⟩ := rely.serve hi hmay hr
  exact hk r s'' hr hi' hl'

/-- Where every question may be asked, every program is attended to. -/
theorem attends_of_may (hmay : ∀ s q, rely.may job s q) (p : Prog ι ρ ε α) (s : σ) :
    Attends rely job p s fun _ _ => True := by
  induction p generalizing s with
  | ok a => exact fun _ _ _ => trivial
  | err e => trivial
  | panic w => trivial
  | ask q k ih => exact fun s' _ _ => ⟨hmay s' q, fun r s'' _ => ih r s''⟩

/-! ## The pool -/

namespace Pool

variable (rely) in
/-- **The store is as it should be and every program within its contract.** -/
structure Attended (Q : μ → α → σ → Prop) (w : Pool σ μ ι ρ ε α) : Prop where
  inv : rely.inv w.store
  attempts : ∀ a ∈ w.attempts, Attends rely a.1 a.2 w.store (Q a.1)

variable {Q : μ → α → σ → Prop} {body : μ → Prog ι ρ ε α}

variable {a : α}

/-- What has been returned satisfies its postcondition now. -/
theorem Attended.returned {w : Pool σ μ ι ρ ε α} (h : w.Attended rely Q)
    (ha : (job, Prog.ok a) ∈ w.attempts) : Q job a w.store :=
  h.attempts _ ha w.store (rely.refl _) h.inv

/-- A question that is answered is one that its job may ask. -/
theorem Attended.may {w w' : Pool σ μ ι ρ ε α} (h : w.Attended rely Q) {q : ι} {r : ρ}
    (hstep : Step service body w (.serve job q r) w') :
    rely.may job w.store q ∧ service.serves w.store q r w'.store := by
  cases hstep with
  | serve hserves =>
    have hask := h.attempts _ (List.mem_append_right _ List.mem_cons_self)
    exact ⟨(hask _ (rely.refl _) h.inv).1, hserves⟩

variable {m : Move μ ι ρ} {moves : List (Move μ ι ρ)}

/-- A step leaves the store in a later state. -/
theorem Attended.later {w w' : Pool σ μ ι ρ ε α} (h : w.Attended rely Q)
    (hstep : Step service body w m w') : rely.inv w'.store ∧ rely.later w.store w'.store := by
  cases m with
  | arrive job =>
    cases hstep
    exact ⟨h.inv, rely.refl _⟩
  | serve job q r =>
    obtain ⟨hmay, hserves⟩ := h.may hstep
    exact rely.serve h.inv hmay hserves
  | drift =>
    cases hstep with
    | drift hd => exact rely.drift h.inv hd

/-- **One step keeps every contract.** -/
theorem Attended.step (hbody : ∀ job s, rely.inv s → Attends rely job (body job) s (Q job))
    {w w' : Pool σ μ ι ρ ε α} (h : w.Attended rely Q) (hstep : Step service body w m w') :
    w'.Attended rely Q := by
  obtain ⟨hinv, hlater⟩ := h.later hstep
  refine ⟨hinv, fun a ha => ?_⟩
  cases hstep with
  | arrive s attempts job =>
    rcases List.mem_append.mp ha with hold | hnew
    · exact h.attempts a hold
    · rw [List.mem_singleton] at hnew
      rw [hnew]
      exact hbody job s h.inv
  | @serve s s' before after job q r next hserves =>
    -- The program that was answered goes on; the others see a later store.
    have hask := h.attempts _ (List.mem_append_right before List.mem_cons_self)
    rcases List.mem_append.mp ha with hold | hrest
    · exact (h.attempts a (List.mem_append_left _ hold)).later hlater
    · rcases List.mem_cons.mp hrest with rfl | hold
      · exact (hask s (rely.refl s) h.inv).2 r s' hserves
      · exact (h.attempts a (List.mem_append_right _ (List.mem_cons_of_mem _ hold))).later hlater
  | drift hd => exact (h.attempts a ha).later hlater

/-- **Every reachable pool is attended to.** -/
theorem attended (hbody : ∀ job s, rely.inv s → Attends rely job (body job) s (Q job))
    {w w' : Pool σ μ ι ρ ε α} (hrun : Run (Step service body) w moves w')
    (h : w.Attended rely Q) : w'.Attended rely Q :=
  hrun.invariant (fun _ _ _ hw hs => hw.step hbody hs) h

/-- The store at the end of a run is later than at its start. -/
theorem run_later (hbody : ∀ job s, rely.inv s → Attends rely job (body job) s (Q job))
    {w w' : Pool σ μ ι ρ ε α} (hrun : Run (Step service body) w moves w')
    (h : w.Attended rely Q) : rely.later w.store w'.store := by
  induction hrun with
  | nil w => exact rely.refl _
  | cons hs _ ih => exact rely.trans (h.later hs).2 (ih (h.step hbody hs))

variable (rely) in
/-- **The programs started after the first `n` are within their contract.** The earlier ones ask what they
    may and are free in what they return. -/
structure AttendedFrom (n : Nat) (Q : μ → α → σ → Prop) (w : Pool σ μ ι ρ ε α) : Prop where
  inv : rely.inv w.store
  count : n ≤ w.attempts.length
  asks : ∀ a ∈ w.attempts, Attends rely a.1 a.2 w.store fun _ _ => True
  later : ∀ a ∈ w.attempts.drop n, Attends rely a.1 a.2 w.store (Q a.1)

/-- A step does not come before the programs that it leaves alone. -/
theorem drop_answered {n : Nat} {before after : List (μ × Prog ι ρ ε α)} {a a' : μ × Prog ι ρ ε α}
    {P P' : μ × Prog ι ρ ε α → Prop} (h : ∀ x ∈ (before ++ a :: after).drop n, P x) (hP : ∀ x, P x → P' x)
    (ha : P a → P' a') : ∀ x ∈ (before ++ a' :: after).drop n, P' x := by
  intro x hx
  rw [List.drop_append] at hx h
  rcases List.mem_append.mp hx with hx | hx
  · exact hP x (h x (List.mem_append_left _ hx))
  · cases hk : n - before.length with
    | zero =>
      rw [hk] at hx h
      rcases List.mem_cons.mp hx with rfl | hx
      · exact ha (h a (List.mem_append_right _ List.mem_cons_self))
      · exact hP x (h x (List.mem_append_right _ (List.mem_cons_of_mem _ hx)))
    | succ k =>
      rw [hk, List.drop_succ_cons] at hx h
      exact hP x (h x (List.mem_append_right _ hx))

theorem AttendedFrom.step {n : Nat} (hbody : ∀ job s, rely.inv s → Attends rely job (body job) s (Q job))
    {w w' : Pool σ μ ι ρ ε α} (h : w.AttendedFrom rely n Q) (hstep : Step service body w m w') :
    w'.AttendedFrom rely n Q := by
  have hasks : w'.Attended rely (fun _ _ _ => True) :=
    Attended.step (fun job s hs => (hbody job s hs).mono fun _ _ _ _ => trivial) ⟨h.inv, h.asks⟩ hstep
  have hlater : rely.later w.store w'.store := ((⟨h.inv, h.asks⟩ : w.Attended rely fun _ _ _ => True).later hstep).2
  refine ⟨hasks.inv, ?_, hasks.attempts, ?_⟩
  · have hcount := h.count
    cases hstep with
    | arrive s attempts job =>
      rw [List.length_append]
      exact Nat.le_add_right_of_le hcount
    | serve hserves => simpa using hcount
    | drift hd => exact hcount
  · cases hstep with
    | arrive s attempts job =>
      intro a ha
      have hcount : n ≤ attempts.length := h.count
      rw [List.drop_append_of_le_length hcount] at ha
      rcases List.mem_append.mp ha with hold | hnew
      · exact h.later a hold
      · rw [List.mem_singleton.mp hnew]
        exact hbody job s h.inv
    | @serve s s' before after job q r next hserves =>
      refine drop_answered h.later (fun a ha => ha.later hlater) fun ha => ?_
      exact (ha s (rely.refl s) h.inv).2 r s' hserves
    | drift hd => exact fun a ha => (h.later a ha).later hlater

/-- **Every program started later is attended to.** -/
theorem attendedFrom {n : Nat} (hbody : ∀ job s, rely.inv s → Attends rely job (body job) s (Q job))
    {w w' : Pool σ μ ι ρ ε α} (hrun : Run (Step service body) w moves w')
    (h : w.AttendedFrom rely n Q) : w'.AttendedFrom rely n Q :=
  hrun.invariant (fun _ _ _ hw hs => hw.step hbody hs) h

/-! ## A call on its own -/

/-- The store answers a transcript, one question after the other. -/
inductive Answers (service : Service σ ι ρ) : σ → List (ι × ρ) → σ → Prop where
  | nil (s : σ) : Answers service s [] s
  | cons {s s' s'' : σ} {q : ι} {r : ρ} {t : List (ι × ρ)} :
      service.serves s q r s' → Answers service s' t s'' → Answers service s ((q, r) :: t) s''

theorem run_call {s s' : σ} {before : List (μ × Prog ι ρ ε α)} {p : Prog ι ρ ε α} {t : List (ι × ρ)}
    (hp : Prog.Returns p t a) (ht : Answers service s t s') :
    Run (Step service body) ⟨s, before ++ [(job, p)]⟩ (t.map fun qr => .serve job qr.1 qr.2)
      ⟨s', before ++ [(job, .ok a)]⟩ := by
  induction hp generalizing s with
  | ok a =>
    cases ht
    exact .nil _
  | ask _ _ _ ih =>
    cases ht with
    | cons hserves hrest => exact .cons (.serve hserves) (ih hrest)

/-- **A call arrives, and is served before anything else happens.** -/
theorem run_arrival {s s' : σ} {before : List (μ × Prog ι ρ ε α)} {t : List (ι × ρ)} {a : α}
    (hp : Prog.Returns (body job) t a) (ht : Answers service s t s') :
    ∃ moves, Run (Step service body) ⟨s, before⟩ moves ⟨s', before ++ [(job, .ok a)]⟩ :=
  ⟨_, .cons (.arrive s before job) (run_call hp ht)⟩

end Pool

end ManchesterArcana.Effect
