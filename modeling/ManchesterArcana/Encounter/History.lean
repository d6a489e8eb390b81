import ManchesterArcana.Effect.Run
import ManchesterArcana.Encounter.Posting

/-!
# `Encounter.History` — runs of the engine

A step is one successful resolution: a command, and the dice it was answered with. A history starts with a
new encounter. Each step posts to the books, so what is proved of `Books.Posts` holds along every history.
-/

namespace ManchesterArcana.Encounter

open Effect Rules

/-- A command and the dice its resolution was answered with, each as sides and face. -/
abbrev Turned := EncounterCommand × List (Nat × Nat)

/-- **One successful resolution.** -/
def EncounterStep (s : EncounterState) (a : Turned) (s' : EncounterState) : Prop :=
  ∃ r, Prog.Returns (resolveEncounter s a.1) a.2 r ∧ r.state = s'

/-- A new encounter: valid, and not yet started. -/
structure NewEncounter (s : EncounterState) : Prop where
  valid : s.Valid
  ready : s.status = .ready

/-- A state of some history. -/
def Reachable (s : EncounterState) : Prop :=
  ∃ s₀ as, NewEncounter s₀ ∧ Run EncounterStep s₀ as s

namespace EncounterStep

variable {s s' : EncounterState} {a : Turned}

theorem sealed (h : EncounterStep s a s') : ∃ n d, Enveloped s a.1 ∧
    Prog.Returns (resolveIntent (.of s) a.1.intent) a.2 (n, d) ∧ (sealedState s d).Valid ∧
      s' = sealedState s d := by
  obtain ⟨r, hr, rfl⟩ := h
  obtain ⟨henv, n, d, hintent, hseal⟩ := resolveEncounter_returns.mp hr
  obtain ⟨-, hvalid, hstate, -⟩ := sealResolution_eq_ok hseal
  exact ⟨n, d, henv, hintent, hvalid, hstate⟩

theorem revision_le (h : EncounterStep s a s') : s.revision + 1 ≤ maxU64 := by
  obtain ⟨r, hr, -⟩ := h
  obtain ⟨-, n, d, -, hseal⟩ := resolveEncounter_returns.mp hr
  exact (sealResolution_eq_ok hseal).1

theorem valid (h : EncounterStep s a s') : s.Valid := by
  obtain ⟨n, d, henv, -⟩ := h.sealed
  exact henv.state

theorem valid_next (h : EncounterStep s a s') : s'.Valid := by
  obtain ⟨n, d, -, -, hvalid, rfl⟩ := h.sealed
  exact hvalid

/-- **A step posts its intent.** -/
theorem posts (h : EncounterStep s a s') : s.books.Posts a.1.intent s'.books := by
  obtain ⟨n, d, henv, hintent, -, rfl⟩ := h.sealed
  exact resolveIntent_posts henv.state hintent

/-- A step was on offer, or slipped through on the creature's turn. -/
theorem offered (h : EncounterStep s a s') : Offered s a.1.intent ∨
    (s.status = .active ∧ s.currentActorId = some sootWightId ∧ Unguarded s a.1.intent) := by
  obtain ⟨n, d, henv, hintent, hsealed, -⟩ := h.sealed
  exact (resolveIntent_offered henv.state hintent hsealed).imp_left And.left

theorem run_valid {as : List Turned} (h : Run EncounterStep s as s') (hv : s.Valid) : s'.Valid :=
  h.invariant (fun _ _ _ _ hstep => hstep.valid_next) hv

end EncounterStep

namespace Reachable

variable {s s' : EncounterState}

theorem valid (h : Reachable s) : s.Valid := by
  obtain ⟨s₀, as, hnew, hrun⟩ := h
  exact EncounterStep.run_valid hrun hnew.valid

theorem run (h : Reachable s) {as : List Turned} (hrun : Run EncounterStep s as s') : Reachable s' := by
  obtain ⟨s₀, bs, hnew, hrun₀⟩ := h
  exact ⟨s₀, bs ++ as, hnew, hrun₀.append hrun⟩

end Reachable

/-! ## Replaying a history -/

/-- Resolve the commands one after the other, each with its dice. -/
def replayHistory (s : EncounterState) : List Turned → Option EncounterState
  | [] => some s
  | a :: as => ((resolveEncounter s a.1).replay a.2).bind fun r => replayHistory r.state as

/-- **What replays is a run.** -/
theorem run_of_replay {s s' : EncounterState} {as : List Turned} (h : replayHistory s as = some s') :
    Run EncounterStep s as s' := by
  induction as generalizing s with
  | nil =>
    obtain rfl := Option.some.inj h
    exact .nil s
  | cons a as ih =>
    obtain ⟨r, hr, hrest⟩ := Option.bind_eq_some_iff.mp h
    exact .cons ⟨r, Prog.replay_eq_some.mp hr, rfl⟩ (ih hrest)

/-- What replays to its end replays up to any command before it. -/
theorem replayHistory_take {s : EncounterState} {as : List Turned} (h : (replayHistory s as).isSome = true) (n : Nat) :
    ∃ s', replayHistory s (as.take n) = some s' := by
  induction n generalizing s as with
  | zero => exact ⟨s, by rw [List.take_zero]; rfl⟩
  | succ n ih =>
    cases as with
    | nil => exact ⟨s, rfl⟩
    | cons a as =>
      obtain ⟨s₁, hs₁⟩ := Option.isSome_iff_exists.mp h
      obtain ⟨r, hr, hrest⟩ := Option.bind_eq_some_iff.mp hs₁
      obtain ⟨s', hs'⟩ := ih (Option.isSome_iff_exists.mpr ⟨s₁, hrest⟩)
      exact ⟨s', Option.bind_eq_some_iff.mpr ⟨r, hr, hs'⟩⟩

end ManchesterArcana.Encounter
