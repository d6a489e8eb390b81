import ManchesterArcana.Core.Roll
import ManchesterArcana.Inspiration.Documents

/-!
# `Inspiration.Selection` — which source is selected for a turn

The sources that may inspire a campaign are those that are approved, unexpired, not vetoed and consented to by all of
their participants. Each goes to the draw with its prompt, once the prompt is eligible by level, sensitivities and
cooldown; one sample of the campaign's stream decides.

The sample is weighed in floating point: `WeightedDraw` stands for the index that it comes out at. Stored identifiers
have no blanks, so that a label is normalized by its case.
-/

namespace ManchesterArcana.Inspiration

open Effect Store

def maxEventPrompts : Nat := 10000
def maxEventWeightNanounits : Nat := 1000000000000000
def maxEventCooldownTurns : Nat := 1000000

inductive PersistenceError where
  | notFound (entity id : String)
  | duplicateKey (operation : String)
  | schema (detail : String)
  | revisionConflict (entity id : String) (expected actual : Nat)
  deriving DecidableEq, Repr

/-- The same members. -/
def sameSet (xs ys : List String) : Bool := xs.all (ys.contains ·) && ys.all (xs.contains ·)

def isDisjoint (xs ys : List String) : Bool := xs.all fun x => !ys.contains x

def normalizeLabel (label : String) : String := label.map Char.toLower

def normalizedSet (values : List String) : List String := values.map normalizeLabel

/-! ## Sources -/

namespace SourceDocument

/-- What is stored can be read: no participant, sensitivity, medium or theme is there twice. -/
def stored (d : SourceDocument) : Except PersistenceError Unit :=
  rejectIf (¬ (d.participants.Nodup ∧ d.sensitivities.Nodup ∧ d.media.Nodup ∧ d.themes.Nodup))
    (.schema "stored_source_policy")

end SourceDocument

/-- A consent to this version of a source in a medium, active and unexpired. -/
def ConsentDocument.grants (c : ConsentDocument) (campaignId : String)
    (source : SourceDocument) (media : InspirationMedia) (now : Nat) : Bool :=
  c.campaignId = campaignId ∧ c.sourceId = source.logicalId ∧ c.sourceRevision = source.revision ∧
    c.sourceDigest = source.sourceDigest ∧ c.media = media ∧ c.state = .active ∧ now < c.expiresAtEpoch

def InspirationVetoScope.covers (scope : InspirationVetoScope) (source : SourceDocument) : Bool :=
  match scope with
  | .campaign => true
  | .category categoryId => categoryId = source.categoryId
  | .sourceVersion sourceId revision sourceDigest =>
    sourceId = source.logicalId ∧ revision = source.revision ∧ sourceDigest = source.sourceDigest

namespace InspirationStore

def loadCampaign (s : InspirationStore) (campaignId : String) :
    Except PersistenceError InspirationCampaignDocument :=
  okOr (s.campaigns.find? (·.id = campaignId)) (.notFound "private inspiration campaign" campaignId)

def loadSource (s : InspirationStore) (sourceId : String) (sourceRevision : Nat) : Option SourceDocument :=
  s.sources.find? fun d => d.logicalId = sourceId ∧ d.revision = sourceRevision

def participantIsVerified (s : InspirationStore) (participantId : String) : Bool :=
  s.participants.any fun p => p.id = participantId ∧ p.isVerified

def allSourceParticipantsVerified (s : InspirationStore) (source : SourceDocument) : Bool :=
  source.participants.all s.participantIsVerified

def sourceIsVetoed (s : InspirationStore) (campaignId : String) (source : SourceDocument) : Bool :=
  s.vetoes.any fun v => v.campaignId = campaignId ∧ v.scope.covers source

def sourceHasCompleteConsent (s : InspirationStore) (campaignId : String) (audience : InspirationAudience)
    (media : InspirationMedia) (source : SourceDocument) (now : Nat) : Bool :=
  let granted := s.consents.filter fun c => c.grants campaignId source media now ∧ c.audience = audience ∧
    c.transformation = .highFictionDistanceV1
  granted.all (fun c => sameSet c.sensitivities source.sensitivities) &&
    granted.length = source.participants.length && sameSet (granted.map (·.participantId)) source.participants

end InspirationStore

/-! ## Prompts -/

/-- A prompt of the runtime registry. -/
structure EventPrompt where
  privacySourceId : String
  sourceDigest : String
  sensitivityTags : List String
  participantAliases : List String
  runtime : RuntimeEventPrompt
  deriving DecidableEq, Repr

structure EventEligibility where
  partyLevel : Nat
  currentTurn : Nat
  allowedSensitivityTags : List String
  consentingParticipantAliases : List String
  lastTriggeredTurn : String → Option Nat

namespace EventPrompt

def isEligible (p : EventPrompt) (context : EventEligibility) : Bool :=
  p.runtime.enabled && p.runtime.minimumLevel ≤ context.partyLevel &&
    (p.runtime.maximumLevel.all fun maximum => context.partyLevel ≤ maximum) &&
    (p.sensitivityTags.all fun tag => context.allowedSensitivityTags.contains (normalizeLabel tag)) &&
    (p.participantAliases.all fun label => context.consentingParticipantAliases.contains (normalizeLabel label)) &&
    ((context.lastTriggeredTurn p.privacySourceId).all fun lastTurn =>
      lastTurn ≤ context.currentTurn && p.runtime.cooldownTurns ≤ context.currentTurn - lastTurn)

def validateMetadata (p : EventPrompt) : Except PersistenceError Unit :=
  rejectIf (¬ (1 ≤ p.runtime.selectionWeightNanounits ∧ p.runtime.selectionWeightNanounits ≤ maxEventWeightNanounits ∧
      1 ≤ p.runtime.minimumLevel ∧ p.runtime.minimumLevel ≤ 20 ∧
      (p.runtime.maximumLevel.all fun maximum => p.runtime.minimumLevel ≤ maximum && maximum ≤ 20) = true ∧
      p.runtime.cooldownTurns ≤ maxEventCooldownTurns ∧
      (p.runtime.enabled = true → p.sensitivityTags ≠ [] ∧ p.participantAliases ≠ [] ∧ p.runtime.cooldownTurns ≠ 0)))
    (.schema "deterministic inspiration selection failed")

end EventPrompt

/-- The prompt that a source version stands for in the registry. -/
def SourceDocument.runtimePrompt (d : SourceDocument) : EventPrompt :=
  { privacySourceId := d.logicalId, sourceDigest := d.sourceDigest, sensitivityTags := d.sensitivities,
    participantAliases := d.participants, runtime := d.runtimeProjection }

def SourceDocument.before (d d' : SourceDocument) : Prop :=
  d.logicalId < d'.logicalId ∨ (d.logicalId = d'.logicalId ∧ d.revision ≤ d'.revision)

instance : DecidableRel SourceDocument.before := fun _ _ => inferInstanceAs (Decidable (_ ∨ _))

namespace InspirationStore

/-- `load_private_inspiration_runtime_prompts`, which reads before the transaction. -/
def runtimePrompts (s : InspirationStore) : List EventPrompt :=
  (s.sources.insertionSort SourceDocument.before).map SourceDocument.runtimePrompt

end InspirationStore

/-- The index that a sample of the unit interval, in parts of the largest die, comes out at for these weights. -/
abbrev WeightedDraw := List Nat → Nat → Nat

/-- A source that is ready for the draw, with its prompt. -/
structure Candidate where
  prompt : EventPrompt
  sourceVersion : Nat
  deriving DecidableEq, Repr

structure EventSelectionAudit where
  eligible : List EventPrompt
  selected : Option EventPrompt
  sampleNumerator : Option Nat
  cursorAfter : Nat

/-- `EventPromptLoader::select_with_audit` on the campaign's stream. -/
def selectWithAudit (draw : WeightedDraw) (words : WordStream) (prompts : List EventPrompt)
    (context : EventEligibility) (cursor : Nat) : Except PersistenceError EventSelectionAudit := do
  let eligible := (prompts.filter (·.isEligible context)).insertionSort
    fun p p' => p.privacySourceId ≤ p'.privacySourceId
  match eligible.getLast? with
  | none => return ⟨[], none, none, cursor⟩
  | some last =>
    rejectIf (maxEventPrompts < eligible.length) (.schema "deterministic inspiration selection failed")
    checkAll EventPrompt.validateMetadata eligible
    let (value, next) ← (drawDie words maxDieSides cursor).mapError
      fun _ => .schema "deterministic inspiration selection failed"
    let index := draw (eligible.map (·.runtime.selectionWeightNanounits)) (value - 1)
    return ⟨eligible, some (eligible.getD index last), some (value - 1), next⟩

/-! ## The selection of a campaign -/

/-- `load_last_triggered_turns`: the selections are read by turn, and the last one counts. -/
def InspirationStore.lastTriggeredTurn (s : InspirationStore) (campaignId sourceId : String) : Option Nat :=
  ((s.selections.filter fun x => x.campaignId = campaignId ∧ (x.selected.any (·.sourceId = sourceId)) = true).map
    (·.turnNumber)).max?

/-- `trusted_trigger_window`: the turn of the last event, where it leaves room. -/
def InspirationStore.trustedTriggerWindow (s : InspirationStore) (campaign : InspirationCampaignDocument) :
    Except PersistenceError (Option Nat) :=
  if ¬ campaign.sessionActive ∨ campaign.lastEventSequence = 0 then .ok none
  else do
    let event ← okOr (s.turnEvents.find? fun e => e.campaignId = campaign.id ∧ e.sequence = campaign.lastEventSequence)
      (.schema "inspiration trigger event is missing")
    return if event.payload.isSafe then some campaign.lastEventSequence else none

def InspirationStore.trustedPartyLevel (s : InspirationStore) (campaignId : String) : Except PersistenceError Nat :=
  okOr ((s.party.filter fun x => x.campaignId = campaignId ∧ x.isActive).map (·.level)).max?
    (.schema "campaign party is missing")

structure RequestInspirationSelectionCommand where
  campaignSessionId : String
  idempotencyKey : String
  requestFingerprint : String
  expectedCampaignRevision : Nat
  expectedSettingsRevision : Nat
  audience : InspirationAudience
  media : InspirationMedia
  deriving DecidableEq, Repr

/-- The source may inspire the campaign. -/
def InspirationStore.isOpenSource (s : InspirationStore) (command : RequestInspirationSelectionCommand)
    (themeId : String) (safety : CampaignSafetyDocument) (now : Nat) (source : SourceDocument) : Bool :=
  source.sensitivities.all (safety.allowedSensitivities.contains ·) &&
    isDisjoint source.sensitivities (safety.lines ++ safety.veils ++ safety.excludedTopics) &&
    isDisjoint source.participants safety.excludedParticipantIds && source.themes.contains themeId &&
    !s.sourceIsVetoed command.campaignSessionId source && s.allSourceParticipantsVerified source &&
    s.sourceHasCompleteConsent command.campaignSessionId command.audience command.media source now

/-- The approved versions that are read, in order. -/
def InspirationStore.approvedSources (s : InspirationStore) (media : InspirationMedia) (now : Nat) :
    List SourceDocument :=
  (s.sources.filter fun d => d.reviewState = .approved ∧ d.q11Screened ∧ d.media.contains media ∧
    (d.expiresAtEpoch.all (now < ·)) = true).insertionSort SourceDocument.before

def SourceDocument.findPrompt (source : SourceDocument) (prompts : List EventPrompt) : Option EventPrompt :=
  prompts.find? fun p => p.privacySourceId = source.logicalId ∧ p.sourceDigest = source.sourceDigest ∧
    p.runtime.enabled ∧ sameSet (normalizedSet p.sensitivityTags) (normalizedSet source.sensitivities) ∧
    sameSet (normalizedSet p.participantAliases) (normalizedSet source.participants)

/-- The open sources that have a prompt. -/
def InspirationStore.openSources (s : InspirationStore) (command : RequestInspirationSelectionCommand)
    (themeId : String) (safety : CampaignSafetyDocument) (prompts : List EventPrompt) (now : Nat) :
    List (SourceDocument × EventPrompt) :=
  ((s.approvedSources command.media now).filter (s.isOpenSource command themeId safety now)).filterMap
    fun d => (d.findPrompt prompts).map fun p => (d, p)

/-- `source_versions`: of several versions with one digest, the last one is kept. -/
def versionOf (sources : List (SourceDocument × EventPrompt)) (sourceId sourceDigest : String) : Option Nat :=
  ((sources.map (·.1)).filter fun d => d.logicalId = sourceId ∧ d.sourceDigest = sourceDigest).getLast?.map (·.revision)

def earlyReason (deploymentEnabled : Bool) (global : GlobalInspirationControl) (safety : CampaignSafetyDocument) :
    Option DurableNoSelectionReason :=
  if deploymentEnabled = false then some .deploymentDisabled
  else if global.generationDisabled then some .globalKillSwitch
  else if safety.enabled = false then some .campaignDisabled
  else if safety.generationPaused then some .campaignPaused
  else if safety.safetySetupComplete = false then some .safetyIncomplete
  else none

/-- What a prompt is eligible by: consenting are the participants of the open sources. -/
def InspirationStore.eligibility (s : InspirationStore) (campaignId : String) (safety : CampaignSafetyDocument)
    (sources : List (SourceDocument × EventPrompt)) (partyLevel turnNumber : Nat) : EventEligibility where
  partyLevel := partyLevel
  currentTurn := turnNumber
  allowedSensitivityTags := normalizedSet safety.allowedSensitivities
  consentingParticipantAliases := sources.flatMap fun d => normalizedSet d.1.participants
  lastTriggeredTurn := s.lastTriggeredTurn campaignId

/-- What was drawn, with the version it is recorded under and its cooldown. -/
structure Drawn where
  eligibleSources : List String
  selected : Option SourceBinding
  noSelectionReason : Option DurableNoSelectionReason
  sampleNumerator : Option Nat
  cursorAfter : Nat

def InspirationStore.drawSource (s : InspirationStore) (draw : WeightedDraw) (words : WordStream)
    (command : RequestInspirationSelectionCommand) (themeId : String) (safety : CampaignSafetyDocument)
    (prompts : List EventPrompt) (turnNumber now : Nat) : Except PersistenceError Drawn := do
  let partyLevel ← s.trustedPartyLevel command.campaignSessionId
  rejectIf (themeId = "") (.schema "campaign theme is missing")
  let sources := s.openSources command themeId safety prompts now
  let context := s.eligibility command.campaignSessionId safety sources partyLevel turnNumber
  let audit ← selectWithAudit draw words (sources.map (·.2)) context safety.rngCursor
  match audit.selected with
  | none => return ⟨audit.eligible.map (·.privacySourceId), none, some .noEligibleSources, audit.sampleNumerator,
      audit.cursorAfter⟩
  | some prompt =>
    let sourceVersion ← okOr (versionOf sources prompt.privacySourceId prompt.sourceDigest)
      (.schema "selected source version is missing")
    rejectIf (prompt.runtime.cooldownTurns = 0) (.schema "selected source cooldown is invalid")
    return ⟨audit.eligible.map (·.privacySourceId),
      some ⟨prompt.privacySourceId, sourceVersion, prompt.sourceDigest, turnNumber + prompt.runtime.cooldownTurns⟩, none,
      audit.sampleNumerator, audit.cursorAfter⟩

/-- Nothing is drawn, and the cursor stays, while inspiration is off. -/
def InspirationStore.drawUnlessOff (s : InspirationStore) (draw : WeightedDraw) (words : WordStream)
    (deploymentEnabled : Bool) (command : RequestInspirationSelectionCommand) (themeId : String)
    (safety : CampaignSafetyDocument) (prompts : List EventPrompt) (turnNumber now : Nat) :
    Except PersistenceError Drawn :=
  match earlyReason deploymentEnabled (s.control.getD defaultGlobalControl) safety with
  | some reason => .ok ⟨[], none, some reason, none, safety.rngCursor⟩
  | none => s.drawSource draw words command themeId safety prompts turnNumber now

/-- `reserve_private_inspiration_selection`. -/
def reserveSelection (draw : WeightedDraw) (words : WordStream) (deploymentEnabled : Bool) (selectionId : String)
    (command : RequestInspirationSelectionCommand) (prompts : List EventPrompt) (now : Nat) (s : InspirationStore) :
    Except PersistenceError InspirationDecision := do
  let campaign ← s.loadCampaign command.campaignSessionId
  match s.selections.find? fun x => x.campaignId = command.campaignSessionId ∧
      x.idempotencyKey = command.idempotencyKey with
  | some x =>
    if x.requestFingerprint = command.requestFingerprint then return decided [] (.ok (.selection x))
    else return decided [] (.error .idempotencyConflict)
  | none =>
  if campaign.revision ≠ command.expectedCampaignRevision then
    return decided [] (.error (.revisionConflict command.expectedCampaignRevision campaign.revision))
  match campaign.safety with
  | none => return decided [] (.error .notFound)
  | some safety =>
  if safety.revision ≠ command.expectedSettingsRevision then
    return decided [] (.error (.revisionConflict command.expectedSettingsRevision safety.revision))
  let window ← s.trustedTriggerWindow campaign
  match window with
  | none => return decided [] (.error .scopeDenied)
  | some turnNumber =>
  let drawn ← s.drawUnlessOff draw words deploymentEnabled command campaign.themeId safety prompts turnNumber now
  rejectIf (∃ x ∈ s.selections, x.id = selectionId) (.duplicateKey "reserve inspiration selection")
  let selection : SelectionDocument :=
    { id := selectionId, campaignId := command.campaignSessionId, idempotencyKey := command.idempotencyKey
      requestFingerprint := command.requestFingerprint, campaignRevision := command.expectedCampaignRevision
      settingsRevision := command.expectedSettingsRevision, turnNumber, audience := command.audience
      media := command.media, eligibleSources := drawn.eligibleSources, selected := drawn.selected
      noSelectionReason := drawn.noSelectionReason, sampleNumerator := drawn.sampleNumerator
      cursorBefore := safety.rngCursor, cursorAfter := drawn.cursorAfter }
  return decided [.insertSelection selection, .rngCursor command.campaignSessionId drawn.cursorAfter]
    (.ok (.selection selection))

end ManchesterArcana.Inspiration
