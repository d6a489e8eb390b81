import ManchesterArcana.Encounter.Opening
import ManchesterArcana.Encounter.Rolls

/-!
# `Encounter.Command` — checks on commands and on resolutions

A command is checked before it is resolved, and the resolution is checked before it is returned. Both checks
keep the older schema versions closed: what a version does not know can neither be asked for nor recorded.
-/

namespace ManchesterArcana.Encounter

open Effect Rules

/-! ## Commands -/

namespace EncounterIntent

/-- Intents that came with the second schema version. -/
def requiresV2 : EncounterIntent → Bool
  | .castSpell .. | .secondWind | .actionSurge => true
  | _ => false

/-- Intents that came with the live schema. -/
def requiresV3 : EncounterIntent → Bool
  | .castLight _ | .castMageHand _ | .controlMageHand _ | .dismissMageHand | .castSleep | .castShield
  | .declineReaction | .beginShortRest | .spendHitDie | .useArcaneRecovery | .finishShortRest
  | .takeLongRest => true
  | _ => false

/-- The identifiers an intent carries must be well formed. -/
def validateIds : EncounterIntent → EncounterResult Unit
  | .attack attackId targetId =>
    rejectIf (isValidOpaqueId attackId = false ∨ isValidOpaqueId targetId = false)
      (.invalidCommand "attack and target identifiers must be valid")
  | .contextAction actionId =>
    rejectIf (isValidOpaqueId actionId = false)
      (.invalidCommand "context action identifier must be valid")
  | .castSpell _ targetId =>
    rejectIf (isValidOpaqueId targetId = false) (.invalidCommand "spell target identifier must be valid")
  | .castLight objectId | .castMageHand objectId | .controlMageHand objectId =>
    rejectIf (isValidOpaqueId objectId = false)
      (.invalidCommand "authored object identifier must be valid")
  | _ => .ok ()

end EncounterIntent

namespace EncounterCommand

def validate (c : EncounterCommand) : EncounterResult Unit := do
  rejectIf (EncounterState.supportedSchema c.schemaVersion = false)
    (.invalidCommand "schema version is unsupported")
  rejectIf (c.schemaVersion = legacyEncounterSchemaVersion ∧ c.intent.requiresV2)
    (.invalidCommand "Slice 2 encounter intents require schema version 2")
  rejectIf (c.schemaVersion < encounterSchemaVersion ∧ c.intent.requiresV3)
    (.invalidCommand "full Q04 encounter intents require schema version 3")
  rejectIf (isValidOpaqueId c.encounterId = false ∨ isValidOpaqueId c.idempotencyKey = false ∨
      c.expectedRevision = 0)
    (.invalidCommand "identifiers must be valid and expected revision must be positive")
  c.intent.validateIds

/-- A command whose identifiers are well formed and whose intent its schema version knows. -/
structure Valid (c : EncounterCommand) : Prop where
  schema : EncounterState.supportedSchema c.schemaVersion = true
  knowsV2 : c.schemaVersion = legacyEncounterSchemaVersion → c.intent.requiresV2 = false
  knowsV3 : c.schemaVersion < encounterSchemaVersion → c.intent.requiresV3 = false
  encounterId : isValidOpaqueId c.encounterId = true
  idempotencyKey : isValidOpaqueId c.idempotencyKey = true
  revision_pos : c.expectedRevision ≠ 0
  ids : c.intent.validateIds = .ok ()

theorem validate_eq_ok {c : EncounterCommand} : c.validate = .ok () ↔ c.Valid := by
  simp only [validate, seq_eq_ok, rejectIf_eq_ok, not_or, not_and, Bool.not_eq_false, Bool.not_eq_true]
  constructor
  · rintro ⟨h₁, h₂, h₃, ⟨h₄, h₅, h₆⟩, h₇⟩
    exact ⟨h₁, h₂, h₃, h₄, h₅, h₆, h₇⟩
  · intro hv
    exact ⟨hv.schema, hv.knowsV2, hv.knowsV3, ⟨hv.encounterId, hv.idempotencyKey, hv.revision_pos⟩, hv.ids⟩

end EncounterCommand

/-! ## Resolutions -/

namespace EncounterFact

def requiresV2 : EncounterFact → Bool
  | .spellCastResolved .. | .classFeatureResolved .. | .healingApplied .. => true
  | .damageApplied _ _ _ damageType .. => decide (damageType = .fire) || decide (damageType = .force)
  | _ => false

def requiresV3 : EncounterFact → Bool
  | .lightApplied .. | .lightExpired _ | .mageHandCreated .. | .mageHandControlled .. | .mageHandDismissed ..
  | .mageHandExpired _ | .sleepResolved .. | .sleepEnded .. | .attackReactionOpened .. | .shieldResolved ..
  | .attackReactionDeclined .. | .restStarted .. | .hitDieSpent .. | .arcaneRecoveryApplied ..
  | .restCompleted .. => true
  | _ => false

end EncounterFact

namespace RawRollFacts

/-- Rolls the first schema version does not know. -/
def requiresV2 (r : RawRollFacts) : Bool := decide (r.purpose = .healing) || decide (r.mode ≠ .normal)

/-- Rolls only the live schema knows. -/
def requiresV3 (r : RawRollFacts) : Bool :=
  decide (r.purpose = .sleepHitPoints) || decide (r.purpose = .hitDie)

end RawRollFacts

/-- A fact that a schema version knows. -/
def EncounterFact.Fits (f : EncounterFact) (version : Nat) : Prop :=
  (version = legacyEncounterSchemaVersion → f.requiresV2 = false) ∧
    (version < encounterSchemaVersion → f.requiresV3 = false)

/-- A roll that a schema version knows. -/
def RawRollFacts.Fits (r : RawRollFacts) (version : Nat) : Prop :=
  (version = legacyEncounterSchemaVersion → r.requiresV2 = false) ∧
    (version < encounterSchemaVersion → r.requiresV3 = false)

/-- The live schema knows every fact. -/
theorem EncounterFact.fits_live {f : EncounterFact} {version : Nat} (h : version = encounterSchemaVersion) :
    f.Fits version := by
  subst h
  exact ⟨fun h => absurd h (by decide), fun h => absurd h (by decide)⟩

/-- The live schema knows every roll. -/
theorem RawRollFacts.fits_live {r : RawRollFacts} {version : Nat} (h : version = encounterSchemaVersion) :
    r.Fits version := by
  subst h
  exact ⟨fun h => absurd h (by decide), fun h => absurd h (by decide)⟩

namespace DeterministicNarration

/-- An identified narration with two bounded texts. -/
structure Valid (n : DeterministicNarration) : Prop where
  id : isValidOpaqueId n.narrationId = true
  authored_ne : isBlank n.authoredText = false
  fallback_ne : isBlank n.fallbackText = false
  authored_le : n.authoredText.length ≤ 4000
  fallback_le : n.fallbackText.length ≤ 1000

end DeterministicNarration

namespace EncounterResolution

/-- The `i`-th roll of a resolution has sequence number `i + 1`. -/
def validateRoll (entry : RawRollFacts × Nat) : EncounterResult Unit := do
  rejectIf (entry.2 + 1 > maxU16) (.invalidState "too many raw rolls in one resolution")
  rejectIf (entry.1.sequence ≠ entry.2 + 1) (.invalidState "raw rolls are not contiguously sequenced")
  entry.1.validate

def validate (r : EncounterResolution) : EncounterResult Unit := do
  rejectIf (EncounterState.supportedSchema r.schemaVersion = false ∨ r.state.schemaVersion ≠ r.schemaVersion ∨
      r.encounterId ≠ sootWightEncounterId ∨ r.previousRevision = 0 ∨ r.previousRevision + 1 > maxU64 ∨
      r.previousRevision + 1 ≠ r.resultRevision ∨ r.state.encounterId ≠ r.encounterId ∨
      r.state.revision ≠ r.resultRevision ∨ r.facts = [] ∨ isValidOpaqueId r.narration.narrationId = false ∨
      isBlank r.narration.authoredText ∨ isBlank r.narration.fallbackText ∨
      r.narration.authoredText.length > 4000 ∨ r.narration.fallbackText.length > 1000)
    (.invalidState "encounter resolution envelope or narration is invalid")
  rejectIf (r.schemaVersion = legacyEncounterSchemaVersion ∧
      (r.rolls.any (·.requiresV2) ∨ r.facts.any (·.requiresV2)))
    (.invalidState "legacy encounter resolution contains Slice 2 mechanics")
  rejectIf (r.schemaVersion < encounterSchemaVersion ∧
      (r.rolls.any (·.requiresV3) ∨ r.facts.any (·.requiresV3)))
    (.invalidState "historical encounter resolution contains schema-v3 mechanics")
  r.state.validate
  checkAll validateRoll r.rolls.zipIdx

/-- The rolls of one resolution: each valid, numbered from one. -/
structure RollsValid (rolls : List RawRollFacts) : Prop where
  length_le : rolls.length ≤ maxU16
  sequence : ∀ i r, rolls[i]? = some r → r.sequence = i + 1
  valid : ∀ r ∈ rolls, r.Valid

/-- **A resolution that can be stored.** -/
structure Valid (r : EncounterResolution) : Prop where
  schema : EncounterState.supportedSchema r.schemaVersion = true
  stateSchema : r.state.schemaVersion = r.schemaVersion
  encounterId : r.encounterId = sootWightEncounterId
  previous_pos : r.previousRevision ≠ 0
  revision_le : r.previousRevision + 1 ≤ maxU64
  revision : r.previousRevision + 1 = r.resultRevision
  stateEncounterId : r.state.encounterId = r.encounterId
  stateRevision : r.state.revision = r.resultRevision
  facts_ne : r.facts ≠ []
  narration : r.narration.Valid
  legacyRolls : r.schemaVersion = legacyEncounterSchemaVersion → ∀ roll ∈ r.rolls, roll.requiresV2 = false
  legacyFacts : r.schemaVersion = legacyEncounterSchemaVersion → ∀ f ∈ r.facts, f.requiresV2 = false
  historicalRolls : r.schemaVersion < encounterSchemaVersion → ∀ roll ∈ r.rolls, roll.requiresV3 = false
  historicalFacts : r.schemaVersion < encounterSchemaVersion → ∀ f ∈ r.facts, f.requiresV3 = false
  state : r.state.Valid
  rolls : RollsValid r.rolls

theorem checkRolls_eq_ok {rolls : List RawRollFacts} :
    checkAll validateRoll rolls.zipIdx = .ok () ↔ RollsValid rolls := by
  have hiff : checkAll validateRoll rolls.zipIdx = .ok () ↔
      ∀ i r, rolls[i]? = some r → i + 1 ≤ maxU16 ∧ r.sequence = i + 1 ∧ r.Valid := by
    simp only [checkAll_eq_ok, validateRoll, seq_eq_ok, rejectIf_eq_ok, not_not, Nat.not_lt,
      RawRollFacts.validate_eq_ok, Prod.forall, List.mk_mem_zipIdx_iff_getElem?]
    exact ⟨fun h i r hr => h r i hr, fun h r i hr => h i r hr⟩
  rw [hiff]
  constructor
  · intro h
    refine ⟨?_, fun i r hr => (h i r hr).2.1, fun r hr => ?_⟩
    · rcases Nat.eq_zero_or_pos rolls.length with h0 | hpos
      · omega
      · have hlast := List.getElem?_eq_getElem (l := rolls) (i := rolls.length - 1) (by omega)
        have := (h _ _ hlast).1
        omega
    · obtain ⟨i, hi⟩ := List.getElem?_of_mem hr
      exact (h i r hi).2.2
  · intro hv i r hr
    have hi := (List.getElem?_eq_some_iff.mp hr).1
    have hle := hv.length_le
    exact ⟨by omega, hv.sequence i r hr, hv.valid r (List.mem_of_getElem? hr)⟩

theorem validate_eq_ok {r : EncounterResolution} : r.validate = .ok () ↔ r.Valid := by
  simp only [validate, seq_eq_ok, rejectIf_eq_ok, EncounterState.validate_eq_ok, checkRolls_eq_ok, not_or,
    not_and, not_not, Bool.not_eq_false, Bool.not_eq_true, Nat.not_lt, List.any_eq_true, not_exists]
  constructor
  · rintro ⟨⟨h₁, h₂, h₃, h₄, h₅, h₆, h₇, h₈, h₉, h₁₀, h₁₁, h₁₂, h₁₃, h₁₄⟩, h₁₅, h₁₆, h₁₇, h₁₈⟩
    exact ⟨h₁, h₂, h₃, h₄, h₅, h₆, h₇, h₈, h₉, ⟨h₁₀, h₁₁, h₁₂, h₁₃, h₁₄⟩,
      fun hs roll hr => (h₁₅ hs).1 roll hr, fun hs f hf => (h₁₅ hs).2 f hf,
      fun hs roll hr => (h₁₆ hs).1 roll hr, fun hs f hf => (h₁₆ hs).2 f hf, h₁₇, h₁₈⟩
  · intro hv
    exact ⟨⟨hv.schema, hv.stateSchema, hv.encounterId, hv.previous_pos, hv.revision_le, hv.revision,
      hv.stateEncounterId, hv.stateRevision, hv.facts_ne, hv.narration.id, hv.narration.authored_ne,
      hv.narration.fallback_ne, hv.narration.authored_le, hv.narration.fallback_le⟩,
      fun hs => ⟨fun roll hr => hv.legacyRolls hs roll hr, fun f hf => hv.legacyFacts hs f hf⟩,
      fun hs => ⟨fun roll hr => hv.historicalRolls hs roll hr, fun f hf => hv.historicalFacts hs f hf⟩,
      hv.state, hv.rolls⟩

end EncounterResolution

end ManchesterArcana.Encounter
