import ManchesterArcana.Effect.Guard

/-!
# `Effect.Attempt` — changing a state, and failing half way

An `Attempt` changes a state and may fail, by when it has changed it already. `Attempt.Returns` and
`Attempt.Fails` say what became of it, and come apart at every bind. `Attempt.atomically` takes a checkpoint first
and goes back to it on failure: it returns what the attempt returns, and a failure has changed nothing.
`Attempt.Ends` says both at once: what holds when it returns, and what holds of the state that a failure leaves.
-/

namespace ManchesterArcana.Effect

/-- A computation over a state that may fail, the state being left as it is by then. -/
structure Attempt (σ ε α : Type) where
  run : σ → Except ε α × σ

namespace Attempt

variable {σ ε α β : Type} {s s' : σ} {a a' : α} {b : β} {e : ε}

instance : Monad (Attempt σ ε) where
  pure a := ⟨fun s => (.ok a, s)⟩
  bind p f := ⟨fun s =>
    match p.run s with
    | (.ok a, s') => (f a).run s'
    | (.error e, s') => (.error e, s')⟩

/-- Something that leaves the state alone. -/
def lift (x : Except ε α) : Attempt σ ε α := ⟨fun s => (x, s)⟩

/-- Read the state. -/
def reading (f : σ → α) : Attempt σ ε α := ⟨fun s => (.ok (f s), s)⟩

/-- Change the state. -/
def writing (f : σ → σ) : Attempt σ ε Unit := ⟨fun s => (.ok (), f s)⟩

/-- Take a checkpoint, and go back to it on failure. -/
def atomically (p : Attempt σ ε α) : Attempt σ ε α :=
  ⟨fun s =>
    match p.run s with
    | (.ok a, s') => (.ok a, s')
    | (.error e, _) => (.error e, s)⟩

/-- From `s` it returns `a` and leaves `s'`. -/
def Returns (p : Attempt σ ε α) (s : σ) (a : α) (s' : σ) : Prop := p.run s = (.ok a, s')

/-- From `s` it fails with `e` and leaves `s'`. -/
def Fails (p : Attempt σ ε α) (s : σ) (e : ε) (s' : σ) : Prop := p.run s = (.error e, s')

/-- From `s` it returns. -/
def Succeeds (p : Attempt σ ε α) (s : σ) : Prop := ∃ a s', Returns p s a s'

theorem returns_pure : Returns (pure a : Attempt σ ε α) s a' s' ↔ a' = a ∧ s' = s := by
  show (Except.ok a, s) = (Except.ok a', s') ↔ _
  rw [Prod.mk.injEq, Except.ok.injEq]
  exact and_congr eq_comm eq_comm

theorem returns_lift {x : Except ε α} : Returns (lift x : Attempt σ ε α) s a s' ↔ x = .ok a ∧ s' = s := by
  show (x, s) = (Except.ok a, s') ↔ _
  rw [Prod.mk.injEq]
  exact and_congr Iff.rfl eq_comm

theorem returns_reading {f : σ → α} : Returns (reading f : Attempt σ ε α) s a s' ↔ a = f s ∧ s' = s :=
  returns_pure

theorem bind_run (p : Attempt σ ε α) (f : α → Attempt σ ε β) (s : σ) :
    (p >>= f).run s = match p.run s with
      | (.ok a, s') => (f a).run s'
      | (.error e, s') => (.error e, s') := rfl

variable {p : Attempt σ ε α} {f : α → Attempt σ ε β}

/-- What comes after something that is done. -/
theorem bind_of_returns (h : Returns p s a s') :
    (p >>= f).run s = (f a).run s' := by
  rw [bind_run, h]

theorem bind_of_fails (h : Fails p s e s') :
    (p >>= f).run s = (.error e, s') := by
  rw [bind_run, h]

theorem returns_bind :
    Returns (p >>= f) s b s' ↔ ∃ a t, Returns p s a t ∧ Returns (f a) t b s' := by
  constructor
  · intro h
    rcases hp : p.run s with ⟨_ | a, t⟩
    · rw [Returns, bind_of_fails hp] at h
      cases h
    · rw [Returns, bind_of_returns hp] at h
      exact ⟨a, t, hp, h⟩
  · rintro ⟨a, t, hp, hf⟩
    rw [Returns, bind_of_returns hp]
    exact hf

theorem returns_atomically : Returns (atomically p) s a s' ↔ Returns p s a s' := by
  unfold Returns atomically
  dsimp only
  rcases p.run s with ⟨_ | _, _⟩
  · simp
  · exact Iff.rfl

/-- **A failure changes nothing** of what is done atomically. -/
theorem fails_atomically : Fails (atomically p) s e s' ↔ s' = s ∧ ∃ t, Fails p s e t := by
  unfold Fails atomically
  dsimp only
  rcases p.run s with ⟨e' | a, t⟩
  · simp only [Prod.mk.injEq, Except.error.injEq]
    exact ⟨fun ⟨he, hs⟩ => ⟨hs.symm, t, he, rfl⟩, fun ⟨hs, _, he, _⟩ => ⟨he, hs.symm⟩⟩
  · simp

/-! ## Either end -/

/-- From `s` it returns with `Q` or fails in `I`. -/
def Ends (p : Attempt σ ε α) (s : σ) (Q : α → σ → Prop) (I : σ → Prop) : Prop :=
  match p.run s with
  | (.ok a, s') => Q a s'
  | (.error _, s') => I s'

section

variable {p : Attempt σ ε α} {f : α → Attempt σ ε β} {Q : α → σ → Prop} {R : β → σ → Prop} {I : σ → Prop}

theorem Ends.of_returns (h : Ends p s Q I) (hp : Returns p s a s') : Q a s' := by
  rwa [Ends, hp] at h

theorem Ends.of_fails (h : Ends p s Q I) (hp : Fails p s e s') : I s' := by
  rwa [Ends, hp] at h

theorem Ends.mono {Q' : α → σ → Prop} {I' : σ → Prop} (h : Ends p s Q I) (hQ : ∀ a s', Q a s' → Q' a s')
    (hI : ∀ s', I s' → I' s') : Ends p s Q' I' := by
  rcases hp : p.run s with ⟨_ | a, s'⟩
  · rw [Ends, hp]
    exact hI s' (h.of_fails hp)
  · rw [Ends, hp]
    exact hQ a s' (h.of_returns hp)

/-- What is left behind, whichever end it came to. -/
theorem Ends.left (h : Ends p s Q I) (hQ : ∀ a s', Q a s' → I s') : I (p.run s).2 := by
  rcases hp : p.run s with ⟨_ | a, s'⟩
  · exact h.of_fails hp
  · exact hQ a s' (h.of_returns hp)

variable {x : Except ε α}

theorem ends_lift (hI : I s) (hQ : ∀ a, x = .ok a → Q a s) : Ends (lift x) s Q I := by
  cases x with
  | error e => exact hI
  | ok a => exact hQ a rfl

theorem ends_lift_of_ok (hx : x = .ok a) : Ends (lift x) s Q I ↔ Q a s := by
  rw [hx]
  rfl

theorem ends_bind (hp : Ends p s Q I) (hf : ∀ a t, Q a t → Ends (f a) t R I) : Ends (p >>= f) s R I := by
  rcases h : p.run s with ⟨_ | a, t⟩
  · rw [Ends, bind_of_fails h]
    exact hp.of_fails h
  · rw [Ends, bind_of_returns h]
    exact hf a t (hp.of_returns h)

/-- A check fails where it stands. -/
theorem ends_lift_bind (hI : I s) (hf : ∀ a, x = .ok a → Ends (f a) s R I) :
    Ends (lift x >>= f) s R I := by
  cases x with
  | error e => exact hI
  | ok a => exact hf a rfl

/-- A check that passes is passed over. -/
theorem ends_ok_bind (hx : x = .ok a) : Ends (lift x >>= f) s R I ↔ Ends (f a) s R I := by
  rw [hx]
  rfl

theorem ends_reading_bind {g : σ → α} : Ends (reading g >>= f) s R I ↔ Ends (f (g s)) s R I := Iff.rfl

theorem ends_writing_bind {g : σ → σ} {f : Unit → Attempt σ ε β} :
    Ends (writing g >>= f) s R I ↔ Ends (f ()) (g s) R I := Iff.rfl

/-- Where it fails in `s'`, that is all there is to say. -/
theorem Ends.iff_of_fails (h : Ends p s (fun _ _ => False) (· = s')) : Ends p s Q I ↔ I s' := by
  rcases hp : p.run s with ⟨_ | a, t⟩
  · obtain rfl : t = s' := h.of_fails hp
    rw [Ends, hp]
  · exact (h.of_returns hp).elim

theorem succeeds_pure : Succeeds (pure a : Attempt σ ε α) s := ⟨a, s, rfl⟩

/-- Past a check that passes. -/
theorem succeeds_lift_bind (hx : x = .ok a) (h : Succeeds (f a) s) : Succeeds (lift x >>= f) s := by
  rw [hx]
  exact h

theorem succeeds_reading_bind {g : σ → α} : Succeeds (reading g >>= f) s ↔ Succeeds (f (g s)) s := Iff.rfl

end

end Attempt

end ManchesterArcana.Effect
