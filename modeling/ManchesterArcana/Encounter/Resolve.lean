import ManchesterArcana.Encounter.Command
import ManchesterArcana.Encounter.Preserve
import ManchesterArcana.Encounter.Rest

/-!
# `Encounter.Resolve` — one command against one state

`resolveEncounter` checks the state and the envelope of the command, hands a draft to the resolver of the
intent, and checks what comes back: the rolls, the successor state, and the resolution as a whole.
-/

namespace ManchesterArcana.Encounter

open Effect Rules

/-- What is checked before the intent is looked at. -/
def checkEnvelope (s : EncounterState) (c : EncounterCommand) : EncounterResult Unit := do
  s.validate
  c.validate
  rejectIf (c.encounterId ≠ s.encounterId) (.wrongEncounter s.encounterId c.encounterId)
  rejectIf (c.expectedRevision ≠ s.revision) (.revisionConflict c.expectedRevision s.revision)
  rejectIf (c.schemaVersion ≠ s.schemaVersion)
    (.invalidCommand "command and encounter state schema versions must match")

/-- The resolver of an intent. -/
def resolveIntent (d : Draft) : EncounterIntent → Rolling EncounterError Resolved
  | .startEncounter => resolveStart d
  | .move destinationFeet => resolveMove d destinationFeet
  | .attack attackId targetId => resolveAttack d attackId targetId
  | .contextAction actionId => resolveContextAction d actionId
  | .castSpell spell targetId => resolveCastSpell d spell targetId
  | .castLight objectId => resolveCastLight d objectId
  | .castMageHand anchorObjectId => resolveCastMageHand d anchorObjectId
  | .controlMageHand objectId => resolveControlMageHand d objectId
  | .dismissMageHand => resolveDismissMageHand d
  | .castSleep => resolveCastSleep d
  | .castShield => resolveShieldReaction d
  | .declineReaction => resolveDeclineReaction d
  | .secondWind => resolveSecondWind d
  | .actionSurge => resolveActionSurge d
  | .beginShortRest => resolveBeginShortRest d
  | .spendHitDie => resolveSpendHitDie d
  | .useArcaneRecovery => resolveArcaneRecovery d
  | .finishShortRest => resolveFinishShortRest d
  | .takeLongRest => resolveLongRest d
  | .endTurn => resolveEndTurn d
  | .rollDeathSave => resolveDeathSave d

/-- The draft a resolver starts with. -/
abbrev Draft.of (s : EncounterState) : Draft := ⟨s, [], []⟩

/-- Give the successor its revision, and check everything that was produced. -/
def sealResolution (s : EncounterState) (narration : DeterministicNarration) (d : Draft) :
    EncounterResult EncounterResolution := do
  rejectIf (s.revision + 1 > maxU64) .revisionOverflow
  let next := { d.state with schemaVersion := s.schemaVersion, revision := s.revision + 1 }
  checkAll RawRollFacts.validate d.rolls
  next.validate
  let resolution : EncounterResolution :=
    { schemaVersion := next.schemaVersion
      encounterId := s.encounterId
      previousRevision := s.revision
      resultRevision := next.revision
      state := next
      rolls := d.rolls
      facts := d.facts
      narration }
  resolution.validate
  return resolution

/-- Resolve one intent against an immutable state; a failed resolution has no successor. -/
def resolveEncounter (s : EncounterState) (c : EncounterCommand) :
    Rolling EncounterError EncounterResolution := do
  Prog.lift (checkEnvelope s c)
  let (narration, d) ← resolveIntent (.of s) c.intent
  Prog.lift (sealResolution s narration d)

/-! ## A resolution that went through -/

/-- The state a sealed draft ends in. -/
def sealedState (s : EncounterState) (d : Draft) : EncounterState :=
  { d.state with schemaVersion := s.schemaVersion, revision := s.revision + 1 }

structure Enveloped (s : EncounterState) (c : EncounterCommand) : Prop where
  state : s.Valid
  command : c.Valid
  encounterId : c.encounterId = s.encounterId
  revision : c.expectedRevision = s.revision
  schemaVersion : c.schemaVersion = s.schemaVersion

variable {s : EncounterState} {c : EncounterCommand} {r : EncounterResolution}

theorem checkEnvelope_eq_ok :
    checkEnvelope s c = .ok () ↔ Enveloped s c := by
  simp only [checkEnvelope, seq_eq_ok, rejectIf_eq_ok, EncounterState.validate_eq_ok,
    EncounterCommand.validate_eq_ok, not_not]
  exact ⟨fun ⟨h₁, h₂, h₃, h₄, h₅⟩ => ⟨h₁, h₂, h₃, h₄, h₅⟩, fun ⟨h₁, h₂, h₃, h₄, h₅⟩ => ⟨h₁, h₂, h₃, h₄, h₅⟩⟩

theorem sealResolution_eq_ok {n : DeterministicNarration} {d : Draft} (h : sealResolution s n d = .ok r) :
    s.revision + 1 ≤ maxU64 ∧ (sealedState s d).Valid ∧ r.state = sealedState s d ∧ r.rolls = d.rolls ∧
      r.facts = d.facts ∧ r.Valid := by
  simp only [sealResolution, seq_eq_ok, rejectIf_eq_ok, Nat.not_lt, EncounterState.validate_eq_ok,
    EncounterResolution.validate_eq_ok] at h
  obtain ⟨hrev, -, hstate, hres, h⟩ := h
  cases h
  exact ⟨hrev, hstate, rfl, rfl, rfl, hres⟩

/-- **A resolution that went through** took its draft from the resolver of the intent and passed every check. -/
theorem resolveEncounter_returns {t : List (Nat × Nat)} :
    Prog.Returns (resolveEncounter s c) t r ↔ Enveloped s c ∧ ∃ n d,
      Prog.Returns (resolveIntent (.of s) c.intent) t (n, d) ∧ sealResolution s n d = .ok r := by
  unfold resolveEncounter
  rw [Prog.returns_lift_bind]
  constructor
  · rintro ⟨_, henv, h⟩
    obtain ⟨t₁, t₂, ⟨n, d⟩, rfl, hintent, hsealed⟩ := h.bind
    obtain ⟨rfl, hseal⟩ := Prog.returns_lift.mp hsealed
    rw [List.append_nil]
    exact ⟨checkEnvelope_eq_ok.mp henv, n, d, hintent, hseal⟩
  · rintro ⟨henv, n, d, hintent, hseal⟩
    exact ⟨(), checkEnvelope_eq_ok.mpr henv,
      Prog.returns_bind.mpr ⟨t, [], (n, d), (List.append_nil t).symm, hintent,
        Prog.returns_lift.mpr ⟨rfl, hseal⟩⟩⟩

/-! ## A draft that can be sealed -/

/-- **Everything that is checked of a draft**, given that it is framed by the state it started from. -/
structure Sealable (s : EncounterState) (n : DeterministicNarration) (d : Draft) : Prop where
  narration : n.Valid
  frame : Frame s d.state
  moved : d.state.Moved
  rolls : EncounterResolution.RollsValid d.rolls
  facts_ne : d.facts ≠ []
  rollsFit : ∀ roll ∈ d.rolls, roll.Fits s.schemaVersion
  factsFit : ∀ f ∈ d.facts, f.Fits s.schemaVersion

namespace Sealable

variable {s : EncounterState} {n : DeterministicNarration} {d : Draft}

theorem sealedState_eq (h : Sealable s n d) : sealedState s d = { d.state with revision := s.revision + 1 } := by
  unfold sealedState
  rw [← h.frame.schemaVersion]

theorem state (h : Sealable s n d) (hv : s.Valid) : (sealedState s d).Valid := by
  rw [h.sealedState_eq]
  exact (hv.of_frame h.frame h.moved).withRevision (Nat.succ_ne_zero _)

/-- **A sealable draft is sealed.** -/
theorem ok (h : Sealable s n d) (hv : s.Valid) (hrev : s.revision + 1 ≤ maxU64) :
    ∃ r, sealResolution s n d = .ok r ∧ r.state = sealedState s d := by
  let r : EncounterResolution :=
    { schemaVersion := s.schemaVersion
      encounterId := s.encounterId
      previousRevision := s.revision
      resultRevision := s.revision + 1
      state := sealedState s d
      rolls := d.rolls
      facts := d.facts
      narration := n }
  have hstate := h.state hv
  have hvalid : r.Valid :=
    { schema := hv.envelope.schema
      stateSchema := rfl
      encounterId := hv.envelope.encounterId
      previous_pos := hv.envelope.revision_pos
      revision_le := hrev
      revision := rfl
      stateEncounterId := by
        show (sealedState s d).encounterId = s.encounterId
        rw [hstate.envelope.encounterId, hv.envelope.encounterId]
      stateRevision := rfl
      facts_ne := h.facts_ne
      narration := h.narration
      legacyRolls := fun h1 roll hr => (h.rollsFit roll hr).1 h1
      legacyFacts := fun h1 f hf => (h.factsFit f hf).1 h1
      historicalRolls := fun h3 roll hr => (h.rollsFit roll hr).2 h3
      historicalFacts := fun h3 f hf => (h.factsFit f hf).2 h3
      state := hstate
      rolls := h.rolls }
  refine ⟨r, ?_, rfl⟩
  unfold sealResolution
  refine seq_eq_ok.mpr ⟨rejectIf_of_not (by omega), ?_⟩
  refine seq_eq_ok.mpr ⟨checkAll_eq_ok.mpr fun roll hr =>
    RawRollFacts.validate_eq_ok.mpr (h.rolls.valid roll hr), ?_⟩
  refine seq_eq_ok.mpr ⟨EncounterState.validate_eq_ok.mpr hstate, ?_⟩
  exact seq_eq_ok.mpr ⟨EncounterResolution.validate_eq_ok.mpr hvalid, rfl⟩

end Sealable

end ManchesterArcana.Encounter
