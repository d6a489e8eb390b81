import ManchesterArcana.Core.Identifier
import ManchesterArcana.Effect.Guard
import Mathlib.Data.Finset.Card
import Mathlib.Data.Finset.Dedup

/-!
# `TypedGm.Proposals` — inert proposals of the game master

A proposal is a candidate that changes nothing by itself. It is accepted against a context, which says what the engine
offers now: the revision, the ids that may be named and the facts that stand.
-/

namespace ManchesterArcana.TypedGm

open Effect

def typedAiProposalSchemaVersion : Nat := 1

def maxClarificationChoices : Nat := 4

def maxNarrationFacts : Nat := 64

inductive TypedProposalError where
  | invalid (reason : String)
  | stale
  | unsupported
  | contradiction
  deriving DecidableEq, Repr

/-- `sha256:` and the digits. -/
structure Sha256Digest where
  value : String
  deriving DecidableEq, Repr

structure ProposalBase where
  schemaVersion : Nat
  proposalId : String
  sessionId : String
  basedOnRevision : Nat
  basedOnEventSequence : Nat
  promptTemplateId : String
  policyId : String
  configFingerprint : Sha256Digest
  deriving DecidableEq, Repr

inductive CheckDifficulty where
  | veryEasy
  | easy
  | moderate
  | hard
  | veryHard
  | nearlyImpossible
  deriving DecidableEq, Repr

inductive CheckStakes where
  | reversible
  | resourceLoss
  | irreversible
  | characterDefeat
  deriving DecidableEq, Repr

def CheckStakes.requiresConfirmation : CheckStakes → Bool
  | .irreversible | .characterDefeat => true
  | _ => false

inductive RewardTier where
  | minor
  | significant
  | major
  deriving DecidableEq, Repr

/-! ## Facts -/

inductive MechanicalFact where
  | actor (actorId : String)
  | target (targetId : String)
  | rollTotal (rollId : String) (total : Int)
  | difficultyClass (sourceId : String) (value : Int)
  | armorClass (targetId : String) (value : Int)
  | damage (targetId : String) (amount : Nat)
  | hitPoints (targetId : String) (before after : Nat)
  | condition (targetId conditionId : String)
  | resource (actorId resourceId : String) (remaining : Nat)
  | outcome (outcomeId : String)
  | objective (objectiveId statusId : String)
  deriving DecidableEq, Repr

def MechanicalFact.ids : MechanicalFact → List String
  | .actor actorId => [actorId]
  | .target targetId => [targetId]
  | .rollTotal rollId _ => [rollId]
  | .difficultyClass sourceId _ => [sourceId]
  | .armorClass targetId _ | .damage targetId _ | .hitPoints targetId _ _ => [targetId]
  | .condition targetId conditionId => [targetId, conditionId]
  | .resource actorId resourceId _ => [actorId, resourceId]
  | .outcome outcomeId => [outcomeId]
  | .objective objectiveId statusId => [objectiveId, statusId]

/-- The numbers that a fact may not have. -/
def MechanicalFact.validateNumbers : MechanicalFact → Except TypedProposalError Unit
  | .difficultyClass _ value | .armorClass _ value =>
    rejectIf (value ≤ 0) (.invalid "AC and DC facts must be positive")
  | .hitPoints _ before after =>
    rejectIf (before < after) (.invalid "a damage narration HP fact cannot increase HP")
  | _ => .ok ()

def MechanicalFact.validate (fact : MechanicalFact) : Except TypedProposalError Unit := do
  rejectIf (∃ id ∈ fact.ids, isValidOpaqueId id = false) (.invalid "a narration fact identifier is invalid")
  fact.validateNumbers

/-! ## Proposals -/

structure ActionProposal where
  base : ProposalBase
  actionId : String
  targetId : Option String
  rationale : String
  deriving DecidableEq, Repr

structure CheckProposal where
  base : ProposalBase
  checkId : String
  difficulty : CheckDifficulty
  stakes : CheckStakes
  rationale : String
  deriving DecidableEq, Repr

structure SceneProposal where
  base : ProposalBase
  sceneId : String
  objectiveId : Option String
  rewardTier : Option RewardTier
  rationale : String
  deriving DecidableEq, Repr

structure NarrationProposal where
  base : ProposalBase
  narrationId : String
  text : String
  claimedFacts : List MechanicalFact
  deriving DecidableEq, Repr

structure ClarificationChoice where
  choiceId : String
  label : String
  actionId : Option String
  deriving DecidableEq, Repr

structure ClarificationProposal where
  base : ProposalBase
  question : String
  choices : List ClarificationChoice
  deriving DecidableEq, Repr

inductive TypedGmProposal where
  | action (value : ActionProposal)
  | check (value : CheckProposal)
  | scene (value : SceneProposal)
  | narration (value : NarrationProposal)
  | clarification (value : ClarificationProposal)
  deriving DecidableEq, Repr

def TypedGmProposal.base : TypedGmProposal → ProposalBase
  | .action value => value.base
  | .check value => value.base
  | .scene value => value.base
  | .narration value => value.base
  | .clarification value => value.base

/-! ## Acceptance -/

structure ProposalAcceptanceContext where
  sessionId : String
  revision : Nat
  eventSequence : Nat
  promptTemplateId : String
  policyId : String
  configFingerprint : Sha256Digest
  legalActionIds : Finset String
  legalCheckIds : Finset String
  legalTargetIds : Finset String
  legalSceneIds : Finset String
  legalObjectiveIds : Finset String
  authoritativeFacts : List MechanicalFact
  deriving DecidableEq

def ProposalAcceptanceContext.validate (context : ProposalAcceptanceContext) : Except TypedProposalError Unit := do
  rejectIf (isValidOpaqueId context.sessionId = false ∨ context.revision = 0 ∨
    isValidOpaqueId context.promptTemplateId = false ∨ isValidOpaqueId context.policyId = false)
    (.invalid "acceptance context identity or revision is invalid")
  checkAll (fun ids => rejectIf (256 < ids.card ∨ ∃ id ∈ ids, isValidOpaqueId id = false)
    (.invalid "acceptance allowlist is invalid or too large"))
    [context.legalActionIds, context.legalCheckIds, context.legalTargetIds, context.legalSceneIds,
      context.legalObjectiveIds]
  rejectIf (maxNarrationFacts < context.authoritativeFacts.length ∨
    (∃ fact ∈ context.authoritativeFacts, fact.validate ≠ .ok ()) ∨
    context.authoritativeFacts.toFinset.card ≠ context.authoritativeFacts.length)
    (.invalid "authoritative narration facts are invalid or duplicated")

def ProposalBase.validate (base : ProposalBase) : Except TypedProposalError Unit := do
  rejectIf (base.schemaVersion ≠ typedAiProposalSchemaVersion) (.invalid "schema version is unsupported")
  rejectIf (isValidOpaqueId base.proposalId = false ∨ isValidOpaqueId base.sessionId = false ∨
    isValidOpaqueId base.promptTemplateId = false ∨ isValidOpaqueId base.policyId = false ∨ base.basedOnRevision = 0)
    (.invalid "proposal identity, pins, or revision are invalid")

def ProposalBase.validateAgainst (base : ProposalBase) (context : ProposalAcceptanceContext) :
    Except TypedProposalError Unit := do
  base.validate
  context.validate
  rejectIf (base.sessionId ≠ context.sessionId ∨ base.basedOnRevision ≠ context.revision ∨
    base.basedOnEventSequence ≠ context.eventSequence) .stale
  rejectIf (base.promptTemplateId ≠ context.promptTemplateId ∨ base.policyId ≠ context.policyId ∨
    base.configFingerprint ≠ context.configFingerprint) .unsupported

def validateText (value : String) (maximumChars : Nat) : Except TypedProposalError Unit :=
  rejectIf (isBlank value = true ∨ maximumChars < value.length) (.invalid "proposal text is empty or too long")

inductive ProposalDisposition where
  | convertToEngineCommand
  | requirePlayerConfirmation
  | presentationOnly
  | askClarification
  deriving DecidableEq, Repr

/-- The id is one that the engine offers. -/
def isOffered (legal : Finset String) (id : String) : Bool :=
  isValidOpaqueId id ∧ id ∈ legal

/-- The choices in order; `seen` are the ids of those before. -/
def validateChoices (context : ProposalAcceptanceContext) (seen : List String) :
    List ClarificationChoice → Except TypedProposalError Unit
  | [] => .ok ()
  | choice :: rest => do
    validateText choice.label 300
    rejectIf (isValidOpaqueId choice.choiceId = false ∨ choice.choiceId ∈ seen ∨
      ∃ action ∈ choice.actionId, isOffered context.legalActionIds action = false) .unsupported
    validateChoices context (choice.choiceId :: seen) rest

def ActionProposal.validateAgainst (value : ActionProposal) (context : ProposalAcceptanceContext) :
    Except TypedProposalError ProposalDisposition := do
  validateText value.rationale 1000
  rejectIf (isOffered context.legalActionIds value.actionId = false ∨
    ∃ target ∈ value.targetId, isOffered context.legalTargetIds target = false) .unsupported
  return .convertToEngineCommand

def CheckProposal.validateAgainst (value : CheckProposal) (context : ProposalAcceptanceContext) :
    Except TypedProposalError ProposalDisposition := do
  validateText value.rationale 1000
  rejectIf (isOffered context.legalCheckIds value.checkId = false) .unsupported
  return if value.stakes.requiresConfirmation then .requirePlayerConfirmation else .convertToEngineCommand

def SceneProposal.validateAgainst (value : SceneProposal) (context : ProposalAcceptanceContext) :
    Except TypedProposalError ProposalDisposition := do
  validateText value.rationale 1000
  rejectIf (isOffered context.legalSceneIds value.sceneId = false ∨
    ∃ objective ∈ value.objectiveId, isOffered context.legalObjectiveIds objective = false) .unsupported
  return .convertToEngineCommand

def NarrationProposal.validateAgainst (value : NarrationProposal) (context : ProposalAcceptanceContext) :
    Except TypedProposalError ProposalDisposition := do
  validateText value.text 12000
  rejectIf (isValidOpaqueId value.narrationId = false ∨ maxNarrationFacts < value.claimedFacts.length ∨
    ∃ fact ∈ value.claimedFacts, fact.validate ≠ .ok ())
    (.invalid "narration identity, text, or fact bounds are invalid")
  rejectIf (value.claimedFacts.toFinset.card ≠ value.claimedFacts.length ∨
    value.claimedFacts.toFinset ≠ context.authoritativeFacts.toFinset) .contradiction
  return .presentationOnly

def ClarificationProposal.validateAgainst (value : ClarificationProposal) (context : ProposalAcceptanceContext) :
    Except TypedProposalError ProposalDisposition := do
  validateText value.question 500
  rejectIf (value.choices = [] ∨ maxClarificationChoices < value.choices.length)
    (.invalid "clarification choice count is invalid")
  validateChoices context [] value.choices
  return .askClarification

def TypedGmProposal.validateAgainst (proposal : TypedGmProposal) (context : ProposalAcceptanceContext) :
    Except TypedProposalError ProposalDisposition := do
  proposal.base.validateAgainst context
  match proposal with
  | .action value => value.validateAgainst context
  | .check value => value.validateAgainst context
  | .scene value => value.validateAgainst context
  | .narration value => value.validateAgainst context
  | .clarification value => value.validateAgainst context

/-! ## What passes -/

section Passes

variable {context : ProposalAcceptanceContext} {base : ProposalBase} {fact : MechanicalFact}

/-- The context says nothing twice, and every fact in it is valid. -/
theorem ProposalAcceptanceContext.facts_of_valid (h : context.validate = .ok ()) :
    context.authoritativeFacts.length ≤ maxNarrationFacts ∧ (∀ fact ∈ context.authoritativeFacts, fact.validate = .ok ()) ∧
      context.authoritativeFacts.toFinset.card = context.authoritativeFacts.length := by
  unfold ProposalAcceptanceContext.validate at h
  obtain ⟨-, h⟩ := seq_eq_ok.mp h
  obtain ⟨-, h⟩ := seq_eq_ok.mp h
  have h := rejectIf_eq_ok.mp h
  rw [not_or, not_or, not_lt, not_not] at h
  obtain ⟨hlength, hfacts, hcard⟩ := h
  refine ⟨hlength, fun fact hfact => ?_, hcard⟩
  by_contra hinvalid
  exact hfacts ⟨fact, hfact, hinvalid⟩

/-- The identity of a valid context. -/
theorem ProposalAcceptanceContext.identity_of_valid (h : context.validate = .ok ()) :
    isValidOpaqueId context.sessionId = true ∧ context.revision ≠ 0 ∧
      isValidOpaqueId context.promptTemplateId = true ∧ isValidOpaqueId context.policyId = true := by
  unfold ProposalAcceptanceContext.validate at h
  obtain ⟨hidentity, -⟩ := seq_eq_ok.mp h
  have hidentity := rejectIf_eq_ok.mp hidentity
  simpa only [not_or, Bool.not_eq_false] using hidentity

/-- **A base that is pinned to the context is accepted.** -/
theorem ProposalBase.validateAgainst_of_pinned (hcontext : context.validate = .ok ())
    (hschema : base.schemaVersion = typedAiProposalSchemaVersion) (hid : isValidOpaqueId base.proposalId = true)
    (hsession : base.sessionId = context.sessionId) (hrevision : base.basedOnRevision = context.revision)
    (hsequence : base.basedOnEventSequence = context.eventSequence)
    (htemplate : base.promptTemplateId = context.promptTemplateId) (hpolicy : base.policyId = context.policyId)
    (hconfig : base.configFingerprint = context.configFingerprint) : base.validateAgainst context = .ok () := by
  obtain ⟨hs, hr, ht, hp⟩ := context.identity_of_valid hcontext
  have hvalid : base.validate = .ok () := by
    unfold ProposalBase.validate
    refine seq_eq_ok.mpr ⟨rejectIf_of_not (not_not.mpr hschema), rejectIf_of_not ?_⟩
    rw [hid, hsession, hs, htemplate, ht, hpolicy, hp, hrevision]
    simpa using hr
  unfold ProposalBase.validateAgainst
  refine seq_eq_ok.mpr ⟨hvalid, seq_eq_ok.mpr ⟨hcontext, seq_eq_ok.mpr ⟨rejectIf_of_not ?_, rejectIf_of_not ?_⟩⟩⟩
  · rw [hsession, hrevision, hsequence]
    simp
  · rw [htemplate, hpolicy, hconfig]
    simp

theorem isOffered_iff {legal : Finset String} {id : String} :
    isOffered legal id = true ↔ isValidOpaqueId id = true ∧ id ∈ legal := by
  unfold isOffered
  rw [decide_eq_true_eq]

/-- **An accepted action is one that the engine offers**, on a target that it offers. -/
theorem ActionProposal.offered_of_validateAgainst {value : ActionProposal} {disposition : ProposalDisposition}
    (h : value.validateAgainst context = .ok disposition) :
    value.actionId ∈ context.legalActionIds ∧ ∀ target ∈ value.targetId, target ∈ context.legalTargetIds := by
  unfold ActionProposal.validateAgainst at h
  obtain ⟨-, h⟩ := seq_eq_ok.mp h
  obtain ⟨hoffered, -⟩ := seq_eq_ok.mp h
  have hoffered := rejectIf_eq_ok.mp hoffered
  rw [not_or, Bool.not_eq_false] at hoffered
  refine ⟨(isOffered_iff.mp hoffered.1).2, fun target htarget => ?_⟩
  by_contra hnot
  refine hoffered.2 ⟨target, htarget, ?_⟩
  rw [← Bool.not_eq_true, isOffered_iff]
  exact fun h => hnot h.2

end Passes

end ManchesterArcana.TypedGm
